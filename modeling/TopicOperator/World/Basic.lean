import TopicOperator.Pass.Lifecycle
import TopicOperator.Remote.Basic
import TopicOperator.Store.Basic

/-!
# The surroundings of a pass

The world in which passes run: the remote service, the store, a clock, a cancellation token, a limit
for the duration of each call, and disturbances that wait for calls.  A call is first checked against
the token, then meets the first disturbance that waits for its operation, and only then reaches the
remote service.  Time passes only while a disturbance delays a call.
-/

namespace TopicOperator

/-- What a disturbance does to a call after its delay. -/
inductive Trouble where
  /-- The remote service answers that there is no such topic. -/
  | notFound
  /-- The call cannot be carried out. -/
  | transport (text : String)
  /-- The token is cancelled while the call goes on. -/
  | cancel
  /-- The token is cancelled and the call is never answered. -/
  | cancelAndHang
deriving DecidableEq, Repr

/-- A disturbance that waits for a call of some operation. -/
structure Disturbance where
  operation : Operation
  delay : Duration := .zero
  trouble : Option Trouble := none
deriving DecidableEq, Repr

/-- The surroundings of a pass. -/
structure World where
  remote : Remote := {}
  /-- The region that calls are made in. -/
  region : String
  store : Store := .recording []
  clock : Instant
  cancelled : Bool := false
  /-- How long a call may take. -/
  limit : Duration := .ofSeconds 30
  /-- How much time has passed. -/
  elapsed : Duration := .zero
  disturbances : List Disturbance := []
  /-- Why connecting is refused, if it is. -/
  connectRefusal : Option String := none
  events : List Event := []

namespace World

/-- What a disturbance that does not exceed the limit makes of a call. -/
def troubled (w : World) (operation : Operation) (address : String) :
    Option Trouble → Except Interruption (Option RemoteError) × World
  | none => (.ok none, w)
  | some .notFound => (.ok (some (.notFound address)), w)
  | some (.transport text) =>
      (.ok (some (.transport operation.name (.reported text))), w)
  | some .cancel => (.ok none, { w with cancelled := true })
  | some .cancelAndHang => (.error .cancelled, { w with cancelled := true })

/-- What happens to a call before it reaches the remote service: it is interrupted, refused, or let
through. -/
def encounter (w : World) (operation : Operation) (address : String) :
    Except Interruption (Option RemoteError) × World :=
  if w.cancelled then
    (.error .cancelled, w)
  else
    match w.disturbances.find? (·.operation = operation) with
    | none => (.ok none, w)
    | some d =>
        let w := { w with disturbances := w.disturbances.eraseP (·.operation = operation) }
        if w.limit < d.delay then
          (.error (.timedOut w.limit), { w with elapsed := w.elapsed + w.limit })
        else
          troubled { w with elapsed := w.elapsed + d.delay } operation address d.trouble

/-- Makes a call, which acts on the remote service if it is let through. -/
def call {α : Type} (w : World) (operation : Operation) (address : String)
    (act : Remote → Except RemoteError α × Remote) : Called α × World :=
  match w.encounter operation address with
  | (.error interruption, w) => (.error interruption, w)
  | (.ok (some refusal), w) => (.ok (.error refusal), w)
  | (.ok none, w) =>
      let (answer, remote) := act w.remote
      (.ok answer, { w with remote := remote })

/-- Connects to the remote service in a region. -/
def connect (w : World) (region : String) : Except RemoteError Unit × World :=
  match w.connectRefusal with
  | some text => (.error (.transport "Connect" (.reported text)), w)
  | none => (.ok (), { w with region := region })

/-- Lists the topics at some path of the API server. -/
def list (w : World) (path : String) : Except ApiFailure (List Topic) × World :=
  let (topics, store) := w.store.list path
  (topics, { w with store := store })

/-- Logs events. -/
def log (w : World) (events : List Event) : World :=
  { w with events := w.events ++ events }

/-- Lets time pass. -/
def wait (w : World) (time : Duration) : World :=
  { w with elapsed := w.elapsed + time }

/-- The answer to a query. -/
def answer (w : World) : (q : Query) → q.Answer × World
  | .now => (w.clock, { w with clock := w.clock.next })
  | .fetchAttributes identity =>
      w.call .getTopicAttributes identity fun r => (r.fetchAttributes identity, r)
  | .fetchTags identity => w.call .listTags identity fun r => (r.fetchTags identity, r)
  | .mutate m => w.call m.operation m.address fun r => r.mutate w.region m
  | .write topic change =>
      let (answer, store) := w.store.write topic change
      (answer, { w with store := store })
  | .log event => ((), w.log [event])
  | .connect region => w.connect region
  | .patchFinalizers space name steps =>
      let (answer, store) := w.store.patchFinalizers space name steps
      (answer, { w with store := store })

/-- Runs a program. -/
def run {α : Type} (w : World) : Program α → α × World
  | .done result => (result, w)
  | .ask query next =>
      let (answer, w) := w.answer query
      run w (next answer)

/-- The result of work, the topic after it, and the world. -/
structure Ran (α : Type) where
  result : Except PassError α
  topic : Topic
  world : World

/-- Does work on a topic. -/
def perform {α : Type} (w : World) (topic : Topic) (work : Work α) : Ran α :=
  let ((result, topic), w) := w.run (work.run.run topic)
  ⟨result, topic, w⟩

end World

end TopicOperator
