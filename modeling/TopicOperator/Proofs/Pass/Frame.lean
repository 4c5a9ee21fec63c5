import TopicOperator.Proofs.Pass.RecordedIdentity

/-!
# The part of the remote service that a pass knows

A pass over a topic concerns two identities only: the one that the topic records and the one that its
name gets.  So it goes the same way whatever else the remote service keeps, and it leaves everything
else alone.  A failure that is announced for a call to come would break this, because the place in the
log at which it strikes counts the calls of everybody.
-/

namespace TopicOperator

variable {α : Type}

/-- A query stays in its region, and if it reaches the remote service it concerns one of some
topics. -/
def Query.KeepsTo (place : String) (keys : String → Prop) : Query → Prop
  | fetchAttributes identity | fetchTags identity => keys identity
  | mutate m => keys (m.target place)
  | now | write _ _ | log _ | patchFinalizers _ _ _ => True
  | connect _ => False

namespace Program

/-- All queries that a program comes to keep to some topics, as long as what succeeds is answered with
the identity that it concerns. -/
inductive KeepsTo (place : String) (keys : String → Prop) : Program α → Prop
  | done (result : α) : KeepsTo place keys (.done result)
  | ask {query : Query} {next : query.Answer → Program α} (hquery : query.KeepsTo place keys)
      (hnext : ∀ answer, Exchange.NamesTarget place ⟨query, answer⟩ →
        KeepsTo place keys (next answer)) : KeepsTo place keys (.ask query next)

/-- Every program can go to its end in any region. -/
theorem exists_speaks (program : Program α) (place : String) : ∃ talk result,
    program.Speaks talk result ∧ ∀ e ∈ talk, e.NamesTarget place := by
  induction program with
  | done result => exact ⟨[], result, .done result, fun _ he => absurd he List.not_mem_nil⟩
  | ask query next ih =>
      let w : World := { region := place, clock := ⟨0⟩ }
      obtain ⟨talk, result, hrest, hnamed⟩ := ih (w.answer query).1
      exact ⟨_, result, .ask _ hrest, List.forall_mem_cons.2 ⟨w.namesTarget_answer query, hnamed⟩⟩

/-- What all dialogues of a program keep to, the program keeps to. -/
theorem keepsTo_of_speaks {place : String} {keys : String → Prop} {program : Program α}
    (h : ∀ talk result, program.Speaks talk result → (∀ e ∈ talk, e.NamesTarget place) →
      ∀ e ∈ talk, e.query.KeepsTo place keys) : program.KeepsTo place keys := by
  induction program with
  | done result => exact .done result
  | ask query next ih =>
      have hcons : ∀ answer, Exchange.NamesTarget place ⟨query, answer⟩ → ∀ talk result,
          (next answer).Speaks talk result → (∀ e ∈ talk, e.NamesTarget place) →
            query.KeepsTo place keys ∧ ∀ e ∈ talk, e.query.KeepsTo place keys := by
        intro answer hanswer talk result hrest hnamed
        exact List.forall_mem_cons.1
          (h _ result (.ask answer hrest) (List.forall_mem_cons.2 ⟨hanswer, hnamed⟩))
      refine .ask ?_ fun answer hanswer => ih answer fun talk result hrest hnamed =>
        (hcons answer hanswer talk result hrest hnamed).2
      -- Some dialogue starts with the query, so the query is one of those that keep to the topics.
      let w : World := { region := place, clock := ⟨0⟩ }
      obtain ⟨talk, result, hrest, hnamed⟩ := (next (w.answer query).1).exists_speaks place
      exact (hcons _ (w.namesTarget_answer query) talk result hrest hnamed).1

end Program

/-- The identities that a pass over a topic may concern. -/
def Topic.MayConcern (t : Topic) (place key : String) : Prop :=
  t.externalName = some key ∨ key = identityFor place t.anyName

/-- Reconciling a topic keeps to the identity that it records and the one that its name gets. -/
theorem Lifecycle.pass_keepsTo {work : Work Outcome} (hpass : IsPass work) (t : Topic)
    (place : String) : (work.run.run t).KeepsTo place (t.MayConcern place) := by
  refine Program.keepsTo_of_speaks fun talk result hspeaks hnamed e he => ?_
  obtain ⟨before, after, htalk, hfits⟩ := fits_at (pass_stage hpass hspeaks).follows he
  obtain ⟨query, answer⟩ := e
  cases query with
  | fetchAttributes | fetchTags => exact recorded_during_pass hpass hspeaks hnamed htalk hfits
  | mutate m => exact target_during_pass hpass hspeaks hnamed he
  | now | write | log => trivial
  | connect | patchFinalizers => exact absurd hfits not_false

/-- Two states of the remote service are the same at some identities, and no failure is announced in
either of them. -/
structure Remote.AgreesOn (keys : String → Prop) (first second : Remote) : Prop where
  topics : ∀ key, keys key → first.topics.get? key = second.topics.get? key
  quiet : first.failAt = none
  quietOther : second.failAt = none

namespace Remote.AgreesOn

variable {keys : String → Prop} {first second : Remote}

theorem fetchAttributes (h : first.AgreesOn keys second) {identity : String} (hkey : keys identity) :
    first.fetchAttributes identity = second.fetchAttributes identity := by
  unfold Remote.fetchAttributes
  rw [h.topics identity hkey]

theorem fetchTags (h : first.AgreesOn keys second) {identity : String} (hkey : keys identity) :
    first.fetchTags identity = second.fetchTags identity := by
  unfold Remote.fetchTags
  rw [h.topics identity hkey]

theorem get?_replace {topics others : TextMap RemoteTopic} {identity key : String}
    (h : topics.get? key = others.get? key) (result : Option RemoteTopic) :
    (replace topics identity result).get? key = (replace others identity result).get? key := by
  cases result with
  | some topic =>
      show (topics.insert identity topic).get? key = (others.insert identity topic).get? key
      rw [TextMap.get?_insert, TextMap.get?_insert, h]
  | none =>
      show (topics.erase identity).get? key = (others.erase identity).get? key
      rw [TextMap.get?_erase, TextMap.get?_erase, h]

/-- A changing call does the same in both states. -/
theorem mutate (h : first.AgreesOn keys second) {place : String} {m : Mutation}
    (hkey : keys (m.target place)) :
    (first.mutate place m).1 = (second.mutate place m).1 ∧
      (first.mutate place m).2.AgreesOn keys (second.mutate place m).2 := by
  rw [mutate_of_quiet h.quiet, mutate_of_quiet h.quietOther]
  have htarget := h.topics _ hkey
  simp only [change, htarget]
  cases m.result? (second.topics.get? (m.target place)) with
  | none => exact ⟨rfl, h.topics, h.quiet, h.quietOther⟩
  | some result =>
      exact ⟨rfl, fun key hown => get?_replace (h.topics key hown) result, h.quiet, h.quietOther⟩

end Remote.AgreesOn

namespace World

variable {w : World} {keys : String → Prop} {other : Remote} {place : String}

/-- A call whose act does the same in two states of the remote service goes the same way in both. -/
theorem call_agrees (h : w.remote.AgreesOn keys other) (operation : Operation) (address : String)
    (act : Remote → Except RemoteError α × Remote) (hanswer : (act w.remote).1 = (act other).1)
    (hact : (act w.remote).2.AgreesOn keys (act other).2) :
    ∃ after, ({ w with remote := other } : World).call operation address act =
        ((w.call operation address act).1,
          { (w.call operation address act).2 with remote := after }) ∧
      (w.call operation address act).2.remote.AgreesOn keys after := by
  obtain ⟨⟨_, _, _, hworld⟩, -⟩ := w.encounter_eq operation address
  unfold call
  rw [w.encounter_elsewhere other w.store w.clock w.events]
  generalize w.encounter operation address = met at hworld
  obtain ⟨answer, world⟩ := met
  obtain rfl : world = _ := hworld
  rcases answer with interruption | (_ | refusal)
  · exact ⟨other, rfl, h⟩
  · refine ⟨(act other).2, ?_, hact⟩
    simp only [hanswer]
  · exact ⟨other, rfl, h⟩

/-- A query that keeps to some topics is answered the same way where these are the same. -/
theorem answer_agrees (h : w.remote.AgreesOn keys other) {q : Query}
    (hq : q.KeepsTo w.region keys) :
    ∃ after, ({ w with remote := other } : World).answer q =
        ((w.answer q).1, { (w.answer q).2 with remote := after }) ∧
      (w.answer q).2.remote.AgreesOn keys after := by
  cases q with
  | fetchAttributes identity =>
      exact call_agrees h .getTopicAttributes identity (fun r => (r.fetchAttributes identity, r))
        (h.fetchAttributes hq) h
  | fetchTags identity =>
      exact call_agrees h .listTags identity (fun r => (r.fetchTags identity, r))
        (h.fetchTags hq) h
  | mutate m =>
      obtain ⟨hanswer, hagree⟩ := h.mutate hq
      exact call_agrees h m.operation m.address (fun r => r.mutate w.region m) hanswer hagree
  | connect region => exact absurd hq not_false
  | now | write | log | patchFinalizers => exact ⟨other, rfl, h⟩

theorem region_answer_of_keepsTo {q : Query} (hq : q.KeepsTo place keys) (w : World) :
    (w.answer q).2.region = w.region := by
  refine w.region_answer ?_
  rintro region rfl
  exact hq

/-- A program that keeps to some topics goes the same way where these are the same. -/
theorem run_agrees {program : Program α} (hprogram : program.KeepsTo place keys)
    (hplace : w.region = place) (h : w.remote.AgreesOn keys other) :
    ∃ after, ({ w with remote := other } : World).run program =
        ((w.run program).1, { (w.run program).2 with remote := after }) ∧
      (w.run program).2.remote.AgreesOn keys after := by
  induction hprogram generalizing w other with
  | done result => exact ⟨other, rfl, h⟩
  | ask hquery hnext ih =>
      rename_i query next
      obtain ⟨between, hanswer, hagree⟩ := answer_agrees h (hplace ▸ hquery)
      have hnamed := w.namesTarget_answer query
      rw [hplace] at hnamed
      obtain ⟨after, hrest, hend⟩ :=
        ih _ hnamed ((region_answer_of_keepsTo hquery w).trans hplace) hagree
      refine ⟨after, ?_, hend⟩
      simp only [run, hanswer]
      exact hrest

/-- A program that keeps to some topics leaves all others as they are. -/
theorem get?_run_of_not {program : Program α} (hprogram : program.KeepsTo place keys)
    (hplace : w.region = place) {key : String} (hkey : ¬ keys key) :
    (w.run program).2.remote.topics.get? key = w.remote.topics.get? key := by
  induction hprogram generalizing w with
  | done result => rfl
  | ask hquery hnext ih =>
      rename_i query next
      have hnamed := w.namesTarget_answer query
      rw [hplace] at hnamed
      refine (ih _ hnamed ((region_answer_of_keepsTo hquery w).trans hplace)).trans ?_
      refine w.get?_answer_of_ne ?_
      rintro m rfl rfl
      exact hkey (hplace ▸ hquery)

end World

end TopicOperator
