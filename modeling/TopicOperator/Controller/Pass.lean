import TopicOperator.Controller.Options
import TopicOperator.Controller.Report
import TopicOperator.Pass.Lifecycle

/-!
# Passes of the controller

One pass of the controller over a topic as it was listed.  The remote topic is touched only while the
object holds the finalizer of the operator: an object without it gets it and is left alone until it
changes; an object that is being deleted loses it only after the remote topic was cleaned up.
-/

namespace TopicOperator

/-- The finalizer of the operator. -/
def finalizerName : String := "sns.converge.dev/finalizer"

namespace Controller

/-- A program that may fail with an error of the controller. -/
abbrev Guarded := ExceptT ControllerError Program

/-- Asks a query. -/
def ask (q : Query) : Guarded q.Answer :=
  ExceptT.lift (Program.query q)

/-- Does work on a topic, whose changes are not kept. -/
def work {α : Type} (topic : Topic) (job : Work α) (error : PassError → FinalizerError) :
    Guarded α := do
  let (result, _) ← ExceptT.lift (job.run.run topic)
  match result with
  | .ok value => pure value
  | .error cause => throw (.finalizer (error cause))

/-- The name of a topic, which the handling of the finalizer needs. -/
def nameOf (topic : Topic) : Guarded String :=
  match topic.metadata.name with
  | some name => pure name
  | none => throw (.finalizer .unnamedObject)

/-- Patches the finalizers of a topic. -/
def patchFinalizers (space name : String) (steps : List Json.PatchStep)
    (error : ApiFailure → FinalizerError) : Guarded Unit := do
  match ← ask (.patchFinalizers space name steps) with
  | .ok () => pure ()
  | .error cause => throw (.finalizer (error cause))

/-- The steps that add the finalizer to those that an object holds. -/
def additionSteps (held : List String) : List Json.PatchStep :=
  if held.isEmpty then
    [.test "/metadata/finalizers" .null,
      .add "/metadata/finalizers" (.list [.text finalizerName])]
  else
    [.test "/metadata/finalizers" (.list (held.map .text)),
      .add "/metadata/finalizers/-" (.text finalizerName)]

/-- The steps that remove the finalizer from its position. -/
def removalSteps (position : Nat) : List Json.PatchStep :=
  let path := "/metadata/finalizers/" ++ Number.decimal position
  [.test path (.text finalizerName), .remove path]

/-- Reconciles a topic that holds the finalizer. -/
def reconcile (options : ControllerOptions) (topic : Topic) : Guarded Action := do
  let outcome ← work topic Lifecycle.reconcile .applyFailed
  ask (.log { level := .debug, message := "pass finished", fields := [("outcome", outcome.text)] })
  return .requeue options.requeueInterval

/-- Cleans up a topic that is being deleted and takes the finalizer from it. -/
def release (space : String) (topic : Topic) (position : Nat) : Guarded Action := do
  let name ← nameOf topic
  let _ ← work topic Lifecycle.cleanup .cleanupFailed
  patchFinalizers space name (removalSteps position) .removeFinalizer
  return .awaitChange

/-- Gives the finalizer to a topic. -/
def attach (space : String) (topic : Topic) : Guarded Action := do
  let name ← nameOf topic
  patchFinalizers space name (additionSteps topic.metadata.finalizerList) .addFinalizer
  return .awaitChange

/-- Does what the finalizer of a topic calls for. -/
def guarded (options : ControllerOptions) (space : String) (topic : Topic) : Guarded Action :=
  match topic.metadata.finalizerList.idxOf? finalizerName, topic.metadata.isDeleting with
  | some _, false => reconcile options topic
  | some position, true => release space topic position
  | none, false => attach space topic
  | none, true => return .awaitChange

/-- One pass over a topic. -/
def pass (options : ControllerOptions) (topic : Topic) : Guarded Action := do
  match topic.metadata.namespaceName with
  | none => throw .noNamespace
  | some space =>
      let region := topic.parameters.region
      match ← ask (.connect region) with
      | .ok () => guarded options space topic
      | .error cause => throw (.connect region cause)

end Controller

end TopicOperator
