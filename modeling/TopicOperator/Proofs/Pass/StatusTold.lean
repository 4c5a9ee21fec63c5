import TopicOperator.Proofs.Pass.Telling
import TopicOperator.Proofs.Topic.Conditions

/-!
# What the status says after a pass

The status of a topic tells the truth about the pass that left it, whatever the remote service and
the store answered.  A pass that succeeded says which way, and what it read; a pass that failed says
the report of its error, and leaves what the status said about the remote topic unless that could
not be created; a status that is refused changes nothing.  A cleanup says that the remote topic is
about to be deleted before it makes any call.
-/

namespace TopicOperator

namespace Topic

variable {t t' : Topic}

/-- What the status says was observed. -/
def atProvider (t : Topic) : Observation := (t.status.getD {}).atProvider

theorem conditions_eq (t : Topic) : t.conditions = (t.status.getD {}).conditions := by
  unfold conditions
  cases t.status <;> rfl

/-- The status says exactly some conditions, whatever their times, and what was observed. -/
def Says (t : Topic) (conditions : List Condition) (observation : Observation) : Prop :=
  ∃ s, t.status = some s ∧ s.conditions.map Condition.untimed = conditions ∧
    s.atProvider = observation

/-- The status says that a pass over a topic failed.  What it said about the remote topic is left,
unless that could not be created. -/
def SaysFailed (t : Topic) (before : Topic) (e : PassError) : Prop :=
  if e.isCreateTopic then t.Says [.unavailable, .reconcileError e.report] before.atProvider
  else ∃ synced, t.status =
      some ⟨(Condition.latest .ready before.conditions).toList ++ [synced], before.atProvider⟩ ∧
    synced.untimed = .reconcileError e.report

end Topic

namespace Lifecycle

/-- How a pass found that it had brought the remote topic into line, or failed to. -/
def Finds (t : Topic) (talk : Dialogue) (finding : Except PassError Outcome) : Prop :=
  ∃ first done m, first <+: talk ∧ converge.Unfolds t first done m ∧ finding = done.map Prod.fst

/-- What a pass leaves in the status. -/
structure ReconcileTells (t : Topic) (talk : Dialogue) (result : Except PassError Outcome)
    (t' : Topic) : Prop where
  created : ∀ identity, result = .ok (.created identity) →
    t'.Says [.creating, .reconcileSuccess] t.atProvider
  aligned : ∀ outcome, result = .ok outcome → outcome.Aligned →
    ∃ attributes, talk.attributesRead = [attributes] ∧
      t'.Says [.available, .reconcileSuccess] (.ofAttributes attributes)
  outcome : result ≠ .ok .deleted
  failed : ∀ e, Finds t talk (.error e) →
    result = .error e ∧ (¬ talk.RefusesStatus → t'.SaysFailed t e)
  refused : talk.RefusesStatus → t'.status = t.status
  error : ∀ e, result = .error e → Finds t talk (.error e) ∨
    talk.RefusesStatus ∧ ∃ cause, e = .persistStatus cause

end Lifecycle

theorem Query.TellsStatus.not_isRemote {q : Query} (h : q.TellsStatus) : ¬ q.IsRemote := by
  cases q with
  | fetchAttributes | fetchTags | mutate => exact absurd h not_false
  | _ => exact not_false

namespace Lifecycle

open Work

variable {t m t' : Topic} {talk : Dialogue} {status : Status}

/-- Where a condition of each type is asked for, the status says these and nothing else. -/
theorem says_of_status {now : Instant} {before : Option Status} {updates : List Condition}
    {observation : Option Observation} {ready synced : Condition}
    (hstatus : t.status = some (Status.next now before updates observation))
    (hready : Condition.latest .ready updates = some ready)
    (hsynced : Condition.latest .synced updates = some synced) :
    t.Says [ready.untimed, synced.untimed] (observation.getD (before.getD {}).atProvider) :=
  ⟨_, hstatus, Condition.advance_both now _ hready hsynced, rfl⟩

theorem saysFailed_of_status {now : Instant} {e : PassError} (hsame : m.status = t.status)
    (hstatus : t'.status = some (failureStatus now m e)) : t'.SaysFailed t e := by
  rw [failureStatus, hsame] at hstatus
  unfold Topic.SaysFailed
  unfold failureConditions at hstatus
  split
  · rename_i hcreate
    rw [if_pos hcreate] at hstatus
    exact says_of_status hstatus rfl rfl
  · rename_i hother
    rw [if_neg hother] at hstatus
    have hsynced : Condition.latest .synced [.reconcileError e.report] =
        some (.reconcileError e.report) := rfl
    obtain ⟨synced, hconditions, huntimed⟩ :=
      Condition.advance_synced now (t.status.getD {}).conditions rfl hsynced
    refine ⟨synced, ?_, huntimed⟩
    rw [hstatus, Status.next, Topic.conditions_eq]
    simp only [hconditions]
    rfl

/-- A status is told without reading attributes. -/
theorem attributesRead_eq_nil (h : ∀ e ∈ talk, e.query.TellsStatus) : talk.attributesRead = [] := by
  unfold Dialogue.attributesRead
  rw [List.filterMap_eq_nil_iff]
  rintro ⟨query, answer⟩ he
  cases query with
  | fetchAttributes identity => exact absurd (h _ he) not_false
  | _ => rfl

theorem converge_stage {first : Dialogue} {done : Except PassError (Outcome × Status)}
    (h : converge.Unfolds t first done m) :
    m.status = t.status ∧ (∀ e ∈ first, ¬ e.query.WritesStatus) ∧
      ∀ value, done = .ok value → Succeeds t first value.1 value.2 := by
  obtain ⟨hstage, hdone⟩ := converge_staged t _ _ _ h
  have hsilent : ∀ t q, Query.Converges t q → ¬ q.WritesStatus := fun _ _ hq => hq.2
  exact ⟨hstage.status_eq hsilent, hstage.follows.forall_query hsilent, hdone⟩

/-- A pass has one finding. -/
theorem finding_unique {first rest : Dialogue} {done : Except PassError (Outcome × Status)}
    (hconverge : converge.Unfolds t first done m) {finding : Except PassError Outcome}
    (h : Finds t (first ++ rest) finding) : finding = done.map Prod.fst := by
  obtain ⟨other, found, m', hprefix, hother, rfl⟩ := h
  obtain ⟨-, hsame⟩ := hother.unique hconverge hprefix (List.prefix_append _ _)
  cases hsame
  rfl

/-- What a pass that succeeded leaves in the status. -/
theorem tells_of_succeeds {first rest : Dialogue} {outcome : Outcome}
    (hconverge : converge.Unfolds t first (.ok (outcome, status)) m)
    (hsucceeds : Succeeds t first outcome status) (hstatus : t'.status = some status)
    (hread : Dialogue.attributesRead rest = []) (htaken : ¬ Dialogue.RefusesStatus (first ++ rest)) :
    ReconcileTells t (first ++ rest) (.ok outcome) t' := by
  have hfailed : ∀ e, Finds t (first ++ rest) (.error e) →
      (.ok outcome : Except PassError Outcome) = .error e ∧
        (¬ Dialogue.RefusesStatus (first ++ rest) → t'.SaysFailed t e) := by
    intro e he
    cases finding_unique hconverge he
  cases hsucceeds with
  | created identity now =>
      refine ⟨fun _ _ => says_of_status hstatus rfl rfl, ?_, by rintro ⟨⟩, hfailed,
        fun hrefused => absurd hrefused htaken, by rintro _ ⟨⟩⟩
      rintro _ ⟨⟩ haligned
      exact absurd haligned not_false
  | @aligned outcome houtcome now attributes hattributes =>
      refine ⟨?_, ?_, ?_, hfailed, fun hrefused => absurd hrefused htaken, by rintro _ ⟨⟩⟩
      · rintro identity ⟨⟩
        exact absurd houtcome not_false
      · rintro _ ⟨⟩ -
        refine ⟨attributes, ?_, says_of_status hstatus rfl rfl⟩
        rw [Dialogue.attributesRead_append, hread, List.append_nil]
        exact hattributes
      · rintro ⟨⟩
        exact absurd houtcome not_false

theorem reconcile_tells_status {result : Except PassError Outcome}
    (h : reconcile.Unfolds t talk result t') : ReconcileTells t talk result t' := by
  have hpass := reconcile_tells t _ _ _ h
  clear h
  cases hpass with
  | @succeeded first rest outcome status m t' hconverge htold htaken =>
      obtain ⟨-, hfirst, hdone⟩ := converge_stage hconverge
      have hnone : ¬ Dialogue.RefusesStatus (first ++ rest) :=
        fun hrefused => (Dialogue.refusesStatus_append.1 hrefused).elim
          (Dialogue.not_refusesStatus hfirst) htaken
      exact tells_of_succeeds hconverge (hdone _ rfl) (htold.taken htaken)
        (attributesRead_eq_nil htold.asked) hnone
  | @refused first rest outcome status m t' hconverge htold hrefused cause =>
      obtain ⟨hsame, -, -⟩ := converge_stage hconverge
      have hall : Dialogue.RefusesStatus (first ++ rest) :=
        Dialogue.refusesStatus_append.2 (.inr hrefused)
      have hkept : t'.status = t.status := by
        rw [htold.refused hrefused]
        exact hsame
      refine ⟨by rintro _ ⟨⟩, by rintro _ ⟨⟩, by rintro ⟨⟩, ?_, fun _ => hkept, ?_⟩
      · intro e he
        cases finding_unique hconverge he
      · rintro _ ⟨⟩
        exact .inr ⟨hall, cause, rfl⟩
  | @failed first rest e m t' now hconverge htold =>
      obtain ⟨hsame, hfirst, -⟩ := converge_stage hconverge
      have hrefuses : Dialogue.RefusesStatus (first ++ rest) ↔ rest.RefusesStatus :=
        Dialogue.refusesStatus_append.trans (or_iff_right (Dialogue.not_refusesStatus hfirst))
      have hfinds : Finds t (first ++ rest) (.error e) :=
        ⟨first, _, m, List.prefix_append _ _, hconverge, rfl⟩
      refine ⟨by rintro _ ⟨⟩, by rintro _ ⟨⟩, by rintro ⟨⟩, ?_, ?_, ?_⟩
      · intro other hother
        cases finding_unique hconverge hother
        refine ⟨rfl, fun htaken => ?_⟩
        exact saysFailed_of_status hsame (htold.taken (mt hrefuses.2 htaken))
      · intro hrefused
        rw [htold.refused (hrefuses.1 hrefused)]
        exact hsame
      · rintro _ ⟨⟩
        exact .inl hfinds

end Lifecycle

end TopicOperator
