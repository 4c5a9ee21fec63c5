import TopicOperator.Number.Integer
import TopicOperator.Text.Quoted

/-!
# Failures of the remote service

Why a call of the remote service fails: the topic does not exist, or the call could not be carried
out.
-/

namespace TopicOperator

/-- Why a call could not be carried out. -/
inductive CallFailure where
  /-- A failure that was announced for a changing call, which is given by its number. -/
  | injected (call : Nat)
  /-- A failure that is known by its text only. -/
  | reported (text : String)
deriving DecidableEq, Repr

/-- The wording of a failed call. -/
def CallFailure.message : CallFailure → String
  | injected call => "injected failure on mutating call #" ++ Number.decimal call
  | reported text => text

/-- Why a call of the remote service fails. -/
inductive RemoteError where
  | notFound (identity : String)
  | transport (operation : String) (cause : CallFailure)
deriving DecidableEq, Repr

namespace RemoteError

/-- Whether the topic does not exist. -/
def isNotFound : RemoteError → Bool
  | notFound _ => true
  | transport _ _ => false

/-- The wording of an error. -/
def message : RemoteError → String
  | notFound identity => "topic " ++ Text.quoted identity ++ " does not exist"
  | transport operation _ => "failed to call " ++ operation ++ " on the topic API"

/-- The wordings of the causes of an error. -/
def causes : RemoteError → List String
  | notFound _ => []
  | transport _ cause => [cause.message]

/-- The wordings of an error and its causes. -/
def messages (e : RemoteError) : List String := e.message :: e.causes

end RemoteError

end TopicOperator
