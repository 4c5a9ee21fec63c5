import TopicOperator.Controller.Error
import TopicOperator.Log
import TopicOperator.Topic.Resource

/-!
# Results of the controller

What the controller says about a pass: when the next one is due, or why it failed; and what may go
wrong around the passes.
-/

namespace TopicOperator

/-- The name of the controller in events. -/
def controllerName : String := "topic"

/-- When the next pass over a topic is due: after some time, or only when it changes. -/
inductive Action where
  | requeue (delay : Duration)
  | awaitChange
deriving DecidableEq, Repr

/-- An action as events show it. -/
def Action.text : Action → String
  | requeue delay => "Action \x7b requeue_after: Some(" ++ delay.text ++ ") \x7d"
  | awaitChange => "Action \x7b requeue_after: None \x7d"

/-- A result of the controller, about an object that is named by its reference. -/
inductive PassResult where
  | finished (reference : String) (action : Action)
  | failed (reference : String) (error : ControllerError)
  /-- The watch of the topics failed. -/
  | watchFailed (text : String)
  /-- The object is gone. -/
  | missing (reference : String)
deriving DecidableEq, Repr

/-- What the watch says when the API server sends no version. -/
def missingVersionText : String :=
  "no metadata.resourceVersion in watch result (does resource support watch?)"

/-- The events that report a result. -/
def PassResult.events : PassResult → List Event
  | finished reference action =>
      [{ level := .info, message := "reconciled topic"
         fields := [("controller.name", controllerName), ("topic", reference)] },
       { level := .debug, message := "next pass scheduled"
         fields := [("topic", reference), ("action", action.text)] }]
  | failed reference error =>
      [{ level := .error, message := "failed to reconcile topic"
         fields := [("controller.name", controllerName), ("topic", reference),
           ("error.category", error.category), ("error", error.message)] }]
  | watchFailed text =>
      [{ level := .warn, message := "topic watch stream failed"
         fields := [("controller.name", controllerName), ("error", text)] }]
  | missing reference =>
      [{ level := .error, message := "controller failed"
         fields := [("controller.name", controllerName),
           ("error", "tried to reconcile object " ++ reference ++
             " that was not found in local store")] }]

end TopicOperator
