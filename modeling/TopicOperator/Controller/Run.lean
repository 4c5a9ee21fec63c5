import TopicOperator.Controller.Namespace
import TopicOperator.Controller.Pass
import TopicOperator.World.Basic

/-!
# Runs of the controller

The controller lists the topics, makes passes over them and reports each one.  After a pass it waits
as long as the pass asks for; after a failure it waits for an interval of its own.  It ends when its
token is cancelled, after the pass that is going on; but if the topics cannot be listed, that is all
it reports, and it does not end.  The world holds one object, and since nothing is heard of its
changes, every pass sees the topic as it was listed.
-/

namespace TopicOperator

namespace Controller

/-- A run of the controller: the times of its reports, whether it came to its end, and the world
after it. -/
structure Run where
  reports : List Duration := []
  finished : Bool
  world : World

/-- The event of a start. -/
def startEvent (options : ControllerOptions) (watched : WatchedNamespace) : Event where
  level := .info
  message := "starting controller"
  fields := [("controller.name", controllerName), ("watch_namespace", watched.text),
    ("options", options.text)]

/-- The result that is reported about a pass. -/
def result (topic : Topic) : Except ControllerError Action → PassResult
  | .ok action => .finished topic.referenceText action
  | .error error => .failed topic.referenceText error

/-- The delay after a pass, if there is another one before the topic changes. -/
def delayAfter (options : ControllerOptions) : Except ControllerError Action → Option Duration
  | .ok (.requeue delay) => some delay
  | .ok .awaitChange => none
  | .error _ => some options.errorRequeueInterval

/-- Makes a pass and reports it. -/
def step (options : ControllerOptions) (topic : Topic) (world : World) :
    Except ControllerError Action × World :=
  let (answer, world) := world.run (pass options topic).run
  (answer, world.log (result topic answer).events)

/-- Makes a number of passes, unless the token is cancelled or no further pass is due. -/
def passes (options : ControllerOptions) (topic : Topic) :
    Nat → List Duration → World → Run
  | 0, reports, world => { reports := reports, finished := true, world := world }
  | count + 1, reports, world =>
      let (answer, world) := step options topic world
      let reports := reports ++ [world.elapsed]
      if count = 0 ∨ world.cancelled then
        { reports := reports, finished := true, world := world }
      else
        match delayAfter options answer with
        | some delay => passes options topic count reports (world.wait delay)
        | none => { reports := reports, finished := false, world := world }

/-- The result that is reported if the topics cannot be listed. -/
def listFailure (cause : ApiFailure) : PassResult :=
  .watchFailed ("failed to perform initial object list: " ++ cause.message)

/-- Runs the controller in a world until a number of results were reported. -/
def run (options : ControllerOptions) (watched : WatchedNamespace) (count : Nat) (world : World) :
    Run :=
  let world := { world with limit := options.callTimeout }.log [startEvent options watched]
  match world.list watched.path with
  | (.ok (topic :: _), world) => passes options topic count [] world
  | (.ok [], world) => { finished := false, world := world }
  | (.error cause, world) =>
      { reports := [world.elapsed], finished := false
        world := world.log (listFailure cause).events }

end Controller

end TopicOperator
