import TopicOperator.Pass.Error

/-!
# Failures of the controller

Why the controller cannot carry out a pass.  Around the pass itself stands the handling of the
finalizer, which has failures of its own.
-/

namespace TopicOperator

/-- Why the handling of the finalizer fails. -/
inductive FinalizerError where
  | applyFailed (cause : PassError)
  | cleanupFailed (cause : PassError)
  | addFinalizer (cause : ApiFailure)
  | removeFinalizer (cause : ApiFailure)
  | unnamedObject
  | invalidFinalizer
deriving DecidableEq, Repr

namespace FinalizerError

/-- What comes before the wording of the cause. -/
def lead : FinalizerError → String
  | applyFailed _ => "failed to apply object"
  | cleanupFailed _ => "failed to clean up object"
  | addFinalizer _ => "failed to add finalizer"
  | removeFinalizer _ => "failed to remove finalizer"
  | unnamedObject => "object has no name"
  | invalidFinalizer => "invalid finalizer"

/-- The wordings of the causes of an error. -/
def causes : FinalizerError → List String
  | applyFailed cause | cleanupFailed cause => cause.messages
  | addFinalizer cause | removeFinalizer cause => cause.messages
  | unnamedObject | invalidFinalizer => []

/-- The wording of an error, which repeats that of its cause. -/
def message (e : FinalizerError) : String :=
  match e.causes with
  | [] => e.lead
  | cause :: _ => e.lead ++ ": " ++ cause

/-- The wordings of an error and its causes. -/
def messages (e : FinalizerError) : List String := e.message :: e.causes

end FinalizerError

/-- Why the controller cannot carry out a pass. -/
inductive ControllerError where
  | noNamespace
  | connect (region : String) (cause : RemoteError)
  | finalizer (cause : FinalizerError)
deriving DecidableEq, Repr

namespace ControllerError

/-- The name of the kind of an error, which is that of the pass if a pass failed. -/
def category : ControllerError → String
  | noNamespace => "ObjectHasNoNamespace"
  | connect _ _ => "Connect"
  | finalizer (.applyFailed cause) | finalizer (.cleanupFailed cause) => cause.category
  | finalizer _ => "Finalizer"

/-- The wording of an error. -/
def message : ControllerError → String
  | noNamespace => "object has no namespace"
  | connect region _ => "failed to connect to the topic API in region " ++ Text.quoted region
  | finalizer _ => "failed to reconcile topic"

/-- The wordings of the causes of an error. -/
def causes : ControllerError → List String
  | noNamespace => []
  | connect _ cause => cause.messages
  | finalizer cause => cause.messages

/-- The wordings of an error and its causes. -/
def messages (e : ControllerError) : List String := e.message :: e.causes

/-- The report of an error. -/
def report (e : ControllerError) : String := Report.render e.messages

end ControllerError

end TopicOperator
