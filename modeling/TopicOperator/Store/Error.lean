import TopicOperator.Store.Address
import TopicOperator.Store.ServerStatus

/-!
# Failures of the store

Why the API server does not take a request, and why a topic cannot be written back.
-/

namespace TopicOperator

/-- Why a request cannot be built. -/
inductive RequestFlaw where
  | namelessObject
  | longFieldManager
  /-- The target of the request is no address. -/
  | malformedAddress (flaw : AddressFlaw)
deriving DecidableEq, Repr

namespace RequestFlaw

/-- The wording of a request flaw. -/
def message : RequestFlaw → String
  | namelessObject => "failed to validate request: A non-empty name is required"
  | longFieldManager => "failed to validate request: Failed to validate PatchParams::field_manager!"
  | malformedAddress flaw => "failed to build request: " ++ flaw.message

/-- The wordings of the causes of a request flaw. -/
def causes : RequestFlaw → List String
  | namelessObject | longFieldManager => []
  | malformedAddress flaw => [flaw.message]

end RequestFlaw

/-- Why a request to the API server fails. -/
inductive ApiFailure where
  /-- The server refuses the request. -/
  | refused (status : ServerStatus)
  /-- The request cannot even be built. -/
  | unbuildable (flaw : RequestFlaw)
  /-- The server cannot be reached. -/
  | service (text : String)
  /-- The answer is no such object. -/
  | unreadable (text : String)
deriving DecidableEq, Repr

namespace ApiFailure

/-- The wording of a failed request. -/
def message : ApiFailure → String
  | refused status => "ApiError: " ++ status.summary ++ " (" ++ status.text ++ ")"
  | unbuildable flaw => "Failed to build request: " ++ flaw.message
  | service text => "ServiceError: " ++ text
  | unreadable text => "Error deserializing response: " ++ text

/-- The wordings of the causes of a failed request. -/
def causes : ApiFailure → List String
  | refused status => [status.summary]
  | unbuildable flaw => flaw.message :: flaw.causes
  | service text | unreadable text => [text]

/-- The wordings of a failed request and of its causes. -/
def messages (f : ApiFailure) : List String := f.message :: f.causes

end ApiFailure

/-- Why a topic cannot be written back. -/
inductive StoreError where
  | noNamespace
  | patchParameters (name : String) (cause : ApiFailure)
  | patchExternalName (name : String) (cause : ApiFailure)
  | patchStatus (name : String) (cause : ApiFailure)
deriving DecidableEq, Repr

namespace StoreError

/-- The name of the kind of an error. -/
def category : StoreError → String
  | noNamespace => "ObjectHasNoNamespace"
  | patchParameters _ _ => "PatchParameters"
  | patchExternalName _ _ => "PatchExternalName"
  | patchStatus _ _ => "PatchStatus"

/-- The wording of an error. -/
def message : StoreError → String
  | noNamespace => "object has no namespace"
  | patchParameters name _ => "failed to patch the parameters of topic " ++ Text.quoted name
  | patchExternalName name _ => "failed to patch the external name of topic " ++ Text.quoted name
  | patchStatus name _ => "failed to patch the status of topic " ++ Text.quoted name

/-- The wordings of the causes of an error. -/
def causes : StoreError → List String
  | noNamespace => []
  | patchParameters _ cause | patchExternalName _ cause | patchStatus _ cause => cause.messages

/-- The wordings of an error and its causes. -/
def messages (e : StoreError) : List String := e.message :: e.causes

end StoreError

end TopicOperator
