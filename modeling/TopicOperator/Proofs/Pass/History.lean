import TopicOperator.Proofs.Pass.Execution
import TopicOperator.Proofs.Pass.Operations
import TopicOperator.Proofs.Remote.Announcement

/-!
# The log as a history

Clients and passes make changing calls of a remote service that was fresh at the start, some of which
fail as announced.  As long as nothing drifts and the log is not emptied, the log is all there is to
know: whoever makes its calls again on a fresh remote service in the same region, without those that
failed as announced, gets the same answers and ends up with the same topics.

A pass under way may be held up, and disturbances may answer its calls in place of the remote service.
So a call counts as received only if the log has grown by it.
-/

namespace TopicOperator

/-- A changing call that the remote service received, with the answer to it. -/
structure Receipt where
  mutation : Mutation
  answer : Except RemoteError String

namespace Receipt

/-- The call failed as it was announced. -/
def injected (receipt : Receipt) : Bool :=
  match receipt.answer with
  | .error (.transport _ (.injected _)) => true
  | _ => false

/-- The calls that did not fail as announced. -/
def genuine (receipts : List Receipt) : List Receipt :=
  receipts.filter fun receipt => !receipt.injected

theorem injected_iff {receipt : Receipt} : receipt.injected = true ↔
    ∃ operation call, receipt.answer = .error (.transport operation (.injected call)) := by
  unfold injected
  split
  · rename_i operation call hanswer
    exact iff_of_true rfl ⟨operation, call, hanswer⟩
  · rename_i hother
    refine iff_of_false Bool.false_ne_true ?_
    rintro ⟨operation, call, hanswer⟩
    exact hother operation call hanswer

theorem genuine_append_injected (receipts : List Receipt) {receipt : Receipt}
    (h : receipt.injected = true) : genuine (receipts ++ [receipt]) = genuine receipts := by
  simp [genuine, h]

theorem genuine_append_genuine (receipts : List Receipt) {receipt : Receipt}
    (h : ¬ receipt.injected = true) :
    genuine (receipts ++ [receipt]) = genuine receipts ++ [receipt] := by
  simp [genuine, h]

end Receipt

/-- A call that leaves its trace in the log of a remote service with clients in one region, or none
at all. -/
def ClientCall.Tracked (place : String) : ClientCall → Prop
  | mutate region _ => region = place
  | driftAttribute _ _ _ | driftTags _ _ | clearCalls => False
  | fetchAttributes _ | fetchTags _ | contains _ | calls | failOnCall _ => True

/-- What is received of a call of a client. -/
def Remote.received (remote : Remote) : ClientCall → List Receipt
  | .mutate region m => [⟨m, (remote.mutate region m).1⟩]
  | _ => []

/-- A fresh remote service after changing calls in one region. -/
def Remote.replayed (place : String) (ms : List Mutation) : Remote :=
  ({} : Remote).serveAll (ms.map (.mutate place))

namespace World

/-- What the remote service receives while a query is answered. -/
def received (w : World) : Query → List Receipt
  | .mutate m =>
      match (w.answer (.mutate m)).1 with
      | .ok answer =>
          if (w.answer (.mutate m)).2.remote.calls = w.remote.calls then [] else [⟨m, answer⟩]
      | .error _ => []
  | _ => []

/-- A query reaches the remote service as a changing call that it receives, or it changes nothing there
and nothing is received. -/
theorem received_cases (w : World) (q : Query) :
    (∃ m, w.received q = [⟨m, (w.remote.mutate w.region m).1⟩] ∧
        (w.answer q).2.remote = (w.remote.mutate w.region m).2) ∨
      (w.received q = [] ∧ (w.answer q).2.remote = w.remote) := by
  by_cases hmutate : ∃ m, q = .mutate m
  · obtain ⟨m, rfl⟩ := hmutate
    obtain ⟨-, ⟨hremote, hanswer⟩ | ⟨hremote, -⟩⟩ := w.answer_mutate m
    · refine .inl ⟨m, ?_, hremote⟩
      simp [received, hanswer, hremote, Remote.calls_mutate]
    · refine .inr ⟨?_, hremote⟩
      simp only [received, hremote, if_pos]
      split <;> rfl
  · refine .inr ⟨?_, remote_answer fun m hm => hmutate ⟨m, hm⟩⟩
    cases q with
    | mutate m => exact absurd ⟨m, rfl⟩ hmutate
    | fetchAttributes | fetchTags | now | write | log | connect | patchFinalizers => rfl

/-- What the remote service receives while a program runs. -/
def receipts {α : Type} (w : World) : Program α → List Receipt
  | .done _ => []
  | .ask query next =>
      w.received query ++ (w.answer query).2.receipts (next (w.answer query).1)

end World

/-- A run of client calls and operations of the lifecycle on a remote service that was fresh at the
start, with what was received on the way.  Passes may also take turns. -/
inductive History (place : String) : List Receipt → Remote → Prop
  | fresh : History place [] {}
  | call {receipts : List Receipt} {remote : Remote} (c : ClientCall) (hc : c.Tracked place)
      (h : History place receipts remote) :
      History place (receipts ++ remote.received c) (remote.serve c).2
  /-- An operation on a topic, in surroundings of its own. -/
  | operation {receipts : List Receipt} {w : World} (hplace : w.region = place) (t : Topic)
      {α : Type} {work : Work α} (hwork : Lifecycle.Offers work) (h : History place receipts w.remote) :
      History place (receipts ++ w.receipts (work.run.run t)) (w.perform t work).world.remote
  /-- One query of an operation that is under way. -/
  | turn {receipts : List Receipt} {w : World} (hplace : w.region = place) (q : Query)
      (h : History place receipts w.remote) :
      History place (receipts ++ w.received q) (w.answer q).2.remote

/-- All calls received are logged, and to make the genuine ones again on a fresh remote service leaves
the same topics and is answered in the same way. -/
structure CompleteHistory (place : String) (receipts : List Receipt) (remote : Remote) : Prop where
  logged : remote.calls = receipts.map Receipt.mutation
  topics : (Remote.replayed place ((Receipt.genuine receipts).map Receipt.mutation)).topics =
    remote.topics
  answers : ({} : Remote).answers place ((Receipt.genuine receipts).map Receipt.mutation) =
    (Receipt.genuine receipts).map Receipt.answer

namespace Remote

variable {remote : Remote} {place : String} {ms : List Mutation} {m : Mutation}

theorem replayed_append (place : String) (ms : List Mutation) (m : Mutation) :
    replayed place (ms ++ [m]) = ((replayed place ms).mutate place m).2 := by
  rw [replayed, List.map_append, List.map_singleton, serveAll, List.foldl_append]
  rfl

/-- The last one of several calls meets what the others left. -/
theorem answers_append (remote : Remote) (place : String) (ms : List Mutation) (m : Mutation) :
    remote.answers place (ms ++ [m]) = remote.answers place ms ++
      [((remote.serveAll (ms.map (.mutate place))).mutate place m).1] := by
  induction ms generalizing remote with
  | nil => rfl
  | cons first rest ih => exact congrArg (_ :: ·) (ih (remote.mutate place first).2)

/-- Nothing is announced where calls are made again. -/
theorem failAt_replayed (place : String) (ms : List Mutation) :
    (replayed place ms).failAt = none :=
  failAt_serveAll rfl fun n hmem => by
    obtain ⟨m, -, hm⟩ := List.mem_map.1 hmem
    cases hm

/-- A call that is carried out is a function of the topics: made again where these are the same, it has
the same effect and the same answer. -/
theorem mutate_replayed (hsame : (replayed place ms).topics = remote.topics)
    (hannounced : remote.failAt ≠ some remote.calls.length) (m : Mutation) :
    ((replayed place ms).mutate place m).1 = (remote.mutate place m).1 ∧
      ((replayed place ms).mutate place m).2.topics = (remote.mutate place m).2.topics := by
  rw [mutate_of_quiet (failAt_replayed place ms), mutate_of_not_announced hannounced, hsame]
  exact ⟨rfl, rfl⟩

end Remote

namespace CompleteHistory

open Receipt

variable {place : String} {receipts : List Receipt} {remote next : Remote}

theorem fresh (place : String) : CompleteHistory place [] {} := ⟨rfl, rfl, rfl⟩

/-- What is not received does not matter, as long as log and topics stay as they are. -/
theorem nothing (h : CompleteHistory place receipts remote) (hcalls : next.calls = remote.calls)
    (htopics : next.topics = remote.topics) : CompleteHistory place (receipts ++ []) next := by
  rw [List.append_nil]
  exact ⟨hcalls.trans h.logged, h.topics.trans htopics.symm, h.answers⟩

/-- One more call.  If it does not fail as announced, it meets the same topics when it is made again. -/
theorem mutate (h : CompleteHistory place receipts remote) (m : Mutation) :
    CompleteHistory place (receipts ++ [⟨m, (remote.mutate place m).1⟩])
      (remote.mutate place m).2 := by
  have hlogged : (remote.mutate place m).2.calls =
      (receipts ++ [(⟨m, (remote.mutate place m).1⟩ : Receipt)]).map Receipt.mutation := by
    rw [Remote.calls_mutate, h.logged, List.map_append, List.map_singleton]
  have hinjected : (⟨m, (remote.mutate place m).1⟩ : Receipt).injected = true ↔
      remote.failAt = some remote.calls.length :=
    injected_iff.trans Remote.hits_iff
  -- A call that fails as announced is not made again; any other one meets the topics that it met.
  by_cases hannounced : remote.failAt = some remote.calls.length
  · have hsame : (remote.mutate place m).2.topics = remote.topics := by
      rw [Remote.mutate_of_announced hannounced]
      rfl
    refine ⟨hlogged, ?_, ?_⟩
    · rw [genuine_append_injected _ (hinjected.2 hannounced), hsame]
      exact h.topics
    · rw [genuine_append_injected _ (hinjected.2 hannounced)]
      exact h.answers
  · have hagain := Remote.mutate_replayed (h.topics) hannounced m
    have hgenuine := genuine_append_genuine receipts (mt hinjected.1 hannounced)
    refine ⟨hlogged, ?_, ?_⟩
    · rw [hgenuine, List.map_append, List.map_singleton, Remote.replayed_append]
      exact hagain.2
    · rw [hgenuine, List.map_append, List.map_singleton, Remote.answers_append, h.answers,
        List.map_append, List.map_singleton]
      exact congrArg (fun answer => _ ++ [answer]) hagain.1

/-- A call of a client, as far as it leaves a trace in the log. -/
theorem serve (h : CompleteHistory place receipts remote) {c : ClientCall} (hc : c.Tracked place) :
    CompleteHistory place (receipts ++ remote.received c) (remote.serve c).2 := by
  cases c with
  | mutate region m =>
      obtain rfl := hc
      exact h.mutate m
  | fetchAttributes | fetchTags | contains | calls | failOnCall => exact h.nothing rfl rfl
  | driftAttribute | driftTags | clearCalls => exact absurd hc not_false

variable {w : World}

/-- Whatever is asked, what the remote service receives of it is kept track of. -/
theorem answer (h : CompleteHistory place receipts w.remote) (hplace : w.region = place) (q : Query) :
    CompleteHistory place (receipts ++ w.received q) (w.answer q).2.remote := by
  rcases w.received_cases q with ⟨m, hreceived, hremote⟩ | ⟨hreceived, hremote⟩
  · rw [hreceived, hremote, hplace]
    exact h.mutate m
  · rw [hreceived]
    exact h.nothing (congrArg Remote.calls hremote) (congrArg Remote.topics hremote)

/-- A program that does not leave the region. -/
theorem run {α : Type} {program : Program α} (h : CompleteHistory place receipts w.remote)
    (hplace : w.region = place)
    (hstays : ∀ e ∈ w.dialogue program, ∀ region, e.query ≠ .connect region) :
    CompleteHistory place (receipts ++ w.receipts program) (w.run program).2.remote := by
  induction program generalizing w receipts with
  | done result =>
      rw [World.receipts, List.append_nil]
      exact h
  | ask query next ih =>
      obtain ⟨hquery, hrest⟩ := List.forall_mem_cons.1 hstays
      rw [World.receipts, ← List.append_assoc]
      exact ih _ (h.answer hplace query) ((w.region_answer hquery).trans hplace) hrest

end CompleteHistory

/-- The log of a remote service that was fresh at the start is a complete history of what clients and
passes have done to it, whatever was announced, held up or interleaved. -/
theorem log_is_complete_history {place : String} {receipts : List Receipt} {remote : Remote}
    (h : History place receipts remote) : CompleteHistory place receipts remote := by
  induction h with
  | fresh => exact .fresh place
  | call c hc _ ih => exact ih.serve hc
  | operation hplace t hwork _ ih =>
      exact ih.run hplace (Lifecycle.not_connect_of_offers hwork (World.unfolds _ t _))
  | turn hplace q _ ih => exact ih.answer hplace q

/-- A topic that a client creates, a pass that fails as announced on its second call, a cleanup, and a
client that sets an attribute of the topic that is gone. -/
theorem log_is_complete_history_cleaned :
    let place := "us-east-1"
    let identity := identityFor place "orders"
    let parameters : Parameters :=
      { region := place, displayName := some "Orders", tags := some (.ofList [("team", "a")]) }
    let topic := (Topic.new "orders" parameters).setExternalName identity
    let surroundings : Remote → World := fun remote =>
      { region := place, clock := ⟨0⟩, remote := remote }
    let created := (({} : Remote).serve (.mutate place (.create "orders" .empty []))).2
    let announced := (created.serve (.failOnCall 1)).2
    let stopped := ((surroundings announced).perform topic Lifecycle.reconcile).world.remote
    let cleaned := ((surroundings stopped).perform topic Lifecycle.cleanup).world.remote
    let remote := (cleaned.serve (.mutate place (.setAttribute identity "DisplayName" ""))).2
    ∃ receipts, History place receipts remote ∧ receipts.map Receipt.injected =
      [false, false, true, false, false] ∧ CompleteHistory place receipts remote := by
  intro place identity parameters topic surroundings created announced stopped cleaned remote
  have hcreated : History place _ created := .call (.mutate place _) rfl .fresh
  have hannounced : History place _ announced := .call (.failOnCall 1) trivial hcreated
  have hpass : ∀ {receipts : List Receipt} {remote : Remote} {work : Work Outcome},
      Lifecycle.Offers work → History place receipts remote →
        History place (receipts ++ (surroundings remote).receipts (work.run.run topic))
          ((surroundings remote).perform topic work).world.remote :=
    fun {_ remote _} hwork h => .operation (w := surroundings remote) rfl topic hwork h
  have hstopped : History place _ stopped := hpass .reconcile hannounced
  have hcleaned : History place _ cleaned := hpass .cleanup hstopped
  have hremote : History place _ remote := .call (.mutate place _) rfl hcleaned
  exact ⟨_, hremote, by decide +kernel, log_is_complete_history hremote⟩

end TopicOperator
