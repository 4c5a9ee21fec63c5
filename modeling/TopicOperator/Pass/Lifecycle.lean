import TopicOperator.Pass.Program
import TopicOperator.Sync.LateInitialization
import TopicOperator.Sync.UpToDate
import TopicOperator.Sync.Verdict

/-!
# Lifecycle of a topic

The passes over one topic: observe the remote topic, then create, update or delete it.  Every pass
starts from a fresh observation and decides anew what to do, so that a pass that failed halfway is
continued by the next one; nothing is undone.

A pass works on a topic, which it changes as it learns: parameters are filled from the remote topic,
the identity is recorded, the status is renewed.  An error leaves the topic as it is at that point.
-/

namespace TopicOperator

/-- What a pass found out about the remote topic. -/
inductive Sighting where
  /-- No identity was recorded, or the remote service does not know it. -/
  | absent
  /-- The remote topic, whether it matches, and whether it filled parameters. -/
  | present (identity : String) (snapshot : Snapshot) (upToDate filled : Bool)
deriving DecidableEq

/-- What a pass did to the remote topic. -/
inductive Outcome where
  | created (identity : String)
  | updated (attributes tagsAdded tagsRemoved : Nat)
  | unchanged
  | deleted
deriving DecidableEq, Repr

/-- An outcome as events show it. -/
def Outcome.text : Outcome → String
  | created identity => "Created \x7b identity: " ++ Text.quoted identity ++ " \x7d"
  | updated attributes tagsAdded tagsRemoved =>
      "Updated \x7b attributes: " ++ Number.decimal attributes ++ ", tags_added: " ++
        Number.decimal tagsAdded ++ ", tags_removed: " ++ Number.decimal tagsRemoved ++ " \x7d"
  | unchanged => "Unchanged"
  | deleted => "Deleted"

/-- Work on a topic that may fail. -/
abbrev Work := ExceptT PassError (StateT Topic Program)

namespace Work

variable {α : Type}

/-- Asks a query. -/
def ask (q : Query) : Work q.Answer :=
  ExceptT.lift (StateT.lift (Program.query q))

/-- Logs an event. -/
def log (level : Level) (message : String) (fields : List (String × String)) : Work Unit :=
  ask (.log { level := level, message := message, fields := fields })

/-- The outcome of work, which then does not fail any more. -/
def attempt (work : Work α) : Work (Except PassError α) :=
  ExceptT.mk (Except.ok <$> work.run)

/-- The answer of the remote service to a call.  An interruption is an error that names the
operation. -/
def called (operation : Operation) : Called α → Work (Except RemoteError α)
  | .ok answer => pure answer
  | .error .cancelled => throw (.cancelled operation.name)
  | .error (.timedOut limit) => throw (.timedOut operation.name limit)

/-- The value of an answer, or else an error that it causes. -/
def orElse {ε : Type} (answer : Except ε α) (error : ε → PassError) : Work α :=
  match answer with
  | .ok value => pure value
  | .error cause => throw (error cause)

/-- Makes a changing call. -/
def mutate (m : Mutation) : Work (Except RemoteError String) := do
  called m.operation (← ask (.mutate m))

/-- Writes something back about the topic. -/
def write (w : StoreWrite) (error : StoreError → PassError) : Work Unit := do
  orElse (← ask (.write (← get) w)) error

end Work

namespace Lifecycle

open Work

/-- The status of the topic with some conditions renewed, and with an observation if there is one. -/
def nextStatus (updates : List Condition) (observation : Option Observation) : Work Status := do
  let topic ← get
  return Status.next (← ask .now) topic.status updates observation

/-- Writes a status back unless the topic has it already. -/
def persistStatus (status : Status) : Work Unit := do
  if (← get).status = some status then
    pure ()
  else
    write (.status status) .persistStatus
    modify fun topic => { topic with status := some status }

/-- Records an error in the status.  A failure to do so is only logged. -/
def recordFailure (error : PassError) : Work Unit := do
  let conditions :=
    .reconcileError error.report :: if error.isCreateTopic then [.unavailable] else []
  let status ← nextStatus conditions none
  match ← attempt (persistStatus status) with
  | .ok () => pure ()
  | .error e => log .warn "failed to record reconcile error in status" [("error", e.message)]

/-- Fills the parameters of the topic from a snapshot and writes them back if they changed.  The
result tells whether they did. -/
def fillParameters (snapshot : Snapshot) : Work Bool := do
  let parameters := (← get).parameters
  if parameters.gainsFrom snapshot then
    modify fun topic => topic.withParameters (parameters.completedBy snapshot)
    log .debug "persisting late initialized parameters" []
    write (.parameters (parameters.completedBy snapshot)) .persistParameters
    return true
  else
    return false

/-- Reads the tags of a remote topic whose attributes were read. -/
def observeTags (identity : String) (attributes : ObservedAttributes) : Work Sighting := do
  match ← called .listTags (← ask (.fetchTags identity)) with
  | .ok tags =>
      let snapshot := ⟨attributes, tags⟩
      let filled ← fillParameters snapshot
      return .present identity snapshot (isUpToDate (← get).parameters snapshot) filled
  | .error cause =>
      if cause.isNotFound then
        log .info "remote topic disappeared while observing it" [("identity", identity)]
        return .absent
      else
        throw (.fetchTags identity cause)

/-- Reads a remote topic. -/
def observeIdentity (identity : String) : Work Sighting := do
  match ← called .getTopicAttributes (← ask (.fetchAttributes identity)) with
  | .ok attributes => observeTags identity attributes
  | .error cause =>
      if cause.isNotFound then
        log .info "remote topic does not exist" [("identity", identity)]
        return .absent
      else
        throw (.fetchAttributes identity cause)

/-- Reads the remote topic and fills the parameters from it.  Without a recorded identity there is
nothing to read. -/
def observe : Work Sighting := do
  match (← get).externalName with
  | some identity => observeIdentity identity
  | none =>
      log .debug "no external name recorded, topic does not exist yet" []
      return .absent

/-- Creates the remote topic and records the identity that it got. -/
def create : Work String := do
  let topic ← get
  let m := .create topic.anyName topic.parameters.creationAttributes
    (topic.parameters.creationTags.map Tag.ofEntry)
  let identity ← orElse (← mutate m) (.createTopic topic.anyName)
  write (.externalName identity) (.recordExternalName identity)
  modify fun topic => topic.setExternalName identity
  log .info "created remote topic" [("identity", identity)]
  return identity

/-- Sets attributes one after the other. -/
def setAttributes (identity : String) : List (Attribute × String) → Work Unit
  | [] => pure ()
  | (a, value) :: rest => do
      let _ ← orElse (← mutate (.setAttribute identity a.name value)) (.updateAttribute a)
      log .debug "updated attribute" [("attribute", a.name)]
      setAttributes identity rest

/-- Makes the changes of a verdict: attributes, then tags to remove, then tags to add. -/
def update (identity : String) (verdict : Verdict) : Work Unit := do
  setAttributes identity verdict.attributes.toList
  unless verdict.tags.toRemove.isEmpty do
    let keys := verdict.tags.keysToRemove
    let _ ← orElse (← mutate (.removeTags identity keys)) (.removeTags keys)
  unless verdict.tags.toAdd.isEmpty do
    let _ ← orElse (← mutate (.addTags identity verdict.tags.tagsToAdd)) .addTags
  log .info "updated remote topic" [("identity", identity),
    ("attributes", Number.decimal verdict.attributes.toList.length),
    ("tags_added", Number.decimal verdict.tags.toAdd.size),
    ("tags_removed", Number.decimal verdict.tags.toRemove.size)]

/-- Deletes the remote topic.  One that the remote service does not know counts as deleted. -/
def delete : Work Unit := do
  match (← get).externalName with
  | none => log .debug "no external name recorded, nothing to delete" []
  | some identity =>
      match ← mutate (.delete identity) with
      | .ok _ => log .info "deleted remote topic" [("identity", identity)]
      | .error cause =>
          if cause.isNotFound then
            log .info "remote topic was already deleted" [("identity", identity)]
          else
            throw (.deleteTopic identity cause)

/-- Brings a remote topic that was seen into line with the parameters. -/
def align (identity : String) (snapshot : Snapshot) (upToDate : Bool) : Work Outcome := do
  if upToDate then
    return .unchanged
  else
    let verdict := Verdict.compute (← get).parameters snapshot
    update identity verdict
    return .updated verdict.attributes.toList.length verdict.tags.toAdd.size
      verdict.tags.toRemove.size

/-- Brings the remote topic into line with the topic.  The result holds the status to write. -/
def converge : Work (Outcome × Status) := do
  match ← observe with
  | .absent =>
      let identity ← create
      return (.created identity, ← nextStatus [.creating, .reconcileSuccess] none)
  | .present identity snapshot upToDate _ =>
      let outcome ← align identity snapshot upToDate
      let observation := Observation.ofAttributes snapshot.attributes
      return (outcome, ← nextStatus [.available, .reconcileSuccess] (some observation))

/-- Brings the remote topic into line with the topic and renews the status, be it with an error. -/
def reconcile : Work Outcome := do
  match ← attempt converge with
  | .ok (outcome, status) =>
      persistStatus status
      return outcome
  | .error e =>
      recordFailure e
      throw e

/-- Deletes the remote topic of a topic that is going away. -/
def cleanup : Work Outcome := do
  persistStatus (← nextStatus [.deleting] none)
  match ← attempt delete with
  | .ok () => return .deleted
  | .error e =>
      recordFailure e
      throw e

end Lifecycle

end TopicOperator
