import TopicOperator.Proofs.Pass.Reports
import TopicOperator.Proofs.Pass.StatusTold
import TopicOperator.Proofs.Topic.ReadBack

/-!
# A status that is told once

A pass that asks for what the status shows already writes no status, whatever the time is: a
condition keeps the time that it has, and every type of conditions has one place.  This is so even
when the topic was replaced in between by what its own written form is read as, which cuts the times
to seconds.
-/

namespace TopicOperator

namespace Condition

theorem latest_toSecond (type : ConditionType) (conditions : List Condition) :
    latest type (conditions.map toSecond) = (latest type conditions).map toSecond := by
  unfold latest
  rw [← List.map_reverse, List.find?_map]
  rfl

end Condition

/-- A status that shows something shows it with its times cut to seconds. -/
theorem Status.Shows.toSecond {s : Status} {updates : List Condition}
    {observation : Option Observation} (h : s.Shows updates observation) :
    s.toSecond.Shows updates observation := by
  refine ⟨?_, fun type new hnew => ?_, h.observed⟩
  · show s.conditions.map Condition.toSecond = ConditionType.all.filterMap fun type =>
      Condition.latest type (s.conditions.map Condition.toSecond)
    simp only [Condition.latest_toSecond]
    rw [← List.map_filterMap, ← h.ordered]
  · obtain ⟨time, hlatest⟩ := h.asked type new hnew
    refine ⟨time.toSecond, ?_⟩
    show Condition.latest type (s.conditions.map Condition.toSecond) = _
    rw [Condition.latest_toSecond, hlatest]
    rfl

/-- Between two passes a topic stays, or is replaced by what its own written form is read as. -/
def Topic.CarriedTo (t t' : Topic) : Prop :=
  t' = t ∨ ofJson? t.toJson = some t'

/-- What the status of a topic shows it still shows then. -/
theorem Topic.CarriedTo.shows {t t' : Topic} (h : t.CarriedTo t') {s : Status}
    (hstatus : t.status = some s) : ∃ s', t'.status = some s' ∧
      ∀ updates observation, s.Shows updates observation → s'.Shows updates observation := by
  rcases h with rfl | hread
  · exact ⟨s, hstatus, fun _ _ hshows => hshows⟩
  · refine ⟨s.toSecond, ?_, fun _ _ hshows => hshows.toSecond⟩
    rw [status_of_ofJson? hread, hstatus]
    rfl

namespace Lifecycle

open Work

/-- Two passes came to the same: they succeeded in the same way, or failed with errors of one
report. -/
inductive SameFinding : Except PassError Outcome → Except PassError Outcome → Prop
  | created (identity other : String) :
      SameFinding (.ok (.created identity)) (.ok (.created other))
  | aligned {outcome other : Outcome} :
      outcome.Aligned → other.Aligned → SameFinding (.ok outcome) (.ok other)
  | deleted : SameFinding (.ok .deleted) (.ok .deleted)
  | failed {e other : PassError} :
      e.report = other.report → SameFinding (.error e) (.error other)

/-- The conditions that a pass asks for. -/
def requested : Except PassError Outcome → List Condition
  | .ok (.created _) => [.creating, .reconcileSuccess]
  | .ok .unchanged | .ok (.updated _ _ _) => [.available, .reconcileSuccess]
  | .ok .deleted => [.deleting]
  | .error e => failureConditions e

/-- What a pass that brought the remote topic into line observed. -/
def observed (talk : Dialogue) : Except PassError Outcome → Option Observation
  | .ok .unchanged | .ok (.updated _ _ _) =>
      (talk.attributesRead.map Observation.ofAttributes).head?
  | _ => none

variable {t t₁ t₂ t₃ m : Topic} {talk first second : Dialogue}
  {result r₁ r₂ f₁ f₂ : Except PassError Outcome}

theorem failureConditions_congr {e other : PassError} (hreport : e.report = other.report)
    (hcreate : e.isCreateTopic = other.isCreateTopic) :
    failureConditions e = failureConditions other := by
  unfold failureConditions
  rw [hreport, hcreate]

/-- Passes that came to the same ask for the same conditions. -/
theorem requested_congr (h : SameFinding f₁ f₂) (hfirst : ∀ e, f₁ = .error e → e.Genuine)
    (hsecond : ∀ e, f₂ = .error e → e.Genuine) : requested f₁ = requested f₂ := by
  cases h with
  | created | deleted => rfl
  | @aligned outcome other houtcome hother =>
      cases outcome <;> cases other <;> first | rfl | contradiction
  | failed hreport =>
      exact failureConditions_congr hreport
        (PassError.isCreateTopic_of_report (hfirst _ rfl) (hsecond _ rfl) hreport)

theorem observed_congr (h : SameFinding f₁ f₂)
    (hread : ∀ outcome, f₁ = .ok outcome → outcome.Aligned →
      first.attributesRead.map Observation.ofAttributes =
        second.attributesRead.map Observation.ofAttributes) :
    observed first f₁ = observed second f₂ := by
  cases h with
  | created | deleted | failed => rfl
  | @aligned outcome other houtcome hother =>
      have hsame := congrArg List.head? (hread outcome rfl houtcome)
      cases outcome <;> cases other <;> first | exact hsame | contradiction

theorem genuine_of_finds (h : Finds t talk f₁) : ∀ e, f₁ = .error e → e.Genuine := by
  obtain ⟨front, done, m, -, hconverge, rfl⟩ := h
  rintro e he
  cases done with
  | ok value => cases he
  | error cause =>
      cases he
      exact (converge_staged t _ _ _ hconverge).1.genuine _ rfl

theorem status_of_succeeds {front rest : Dialogue} {outcome : Outcome} {status : Status}
    (h : Succeeds t front outcome status) (hrest : Dialogue.attributesRead rest = []) :
    ∃ now, status =
      Status.next now t.status (requested (.ok outcome)) (observed (front ++ rest) (.ok outcome)) := by
  cases h with
  | created identity now => exact ⟨now, rfl⟩
  | @aligned outcome houtcome now attributes hread =>
      have hall : Dialogue.attributesRead (front ++ rest) = [attributes] := by
        rw [Dialogue.attributesRead_append, hread, hrest]
        rfl
      refine ⟨now, ?_⟩
      cases outcome with
      | unchanged | updated =>
          simp only [requested, observed, hall]
          rfl
      | created | deleted => exact absurd houtcome not_false

/-- A pass tells the status that its finding asks for, and tells no other one. -/
theorem tells_of_finds (h : reconcile.Unfolds t talk result t₁) (hfinds : Finds t talk f₁) :
    ∃ (front rest : Dialogue) (m : Topic) (now : Instant), talk = front ++ rest ∧
      (∀ e ∈ front, ¬ e.query.WritesStatus) ∧ m.status = t.status ∧
      m.Told (Status.next now t.status (requested f₁) (observed talk f₁)) rest t₁ := by
  have hpass := reconcile_tells t _ _ _ h
  clear h
  cases hpass with
  | succeeded hconverge htold _ | refused hconverge htold _ _ =>
      obtain rfl := finding_unique hconverge hfinds
      obtain ⟨hsame, hsilent, hdone⟩ := converge_stage hconverge
      obtain ⟨now, hstatus⟩ := status_of_succeeds (hdone _ rfl) (attributesRead_eq_nil htold.asked)
      dsimp only at hstatus
      rw [hstatus] at htold
      exact ⟨_, _, _, now, rfl, hsilent, hsame, htold⟩
  | failed now hconverge htold =>
      obtain rfl := finding_unique hconverge hfinds
      obtain ⟨hsame, hsilent, -⟩ := converge_stage hconverge
      rw [failureStatus, hsame] at htold
      exact ⟨_, _, _, now, rfl, hsilent, hsame, htold⟩

/-- A pass whose status was taken leaves one that shows what it asked for. -/
theorem shows_of_reconcile (h : reconcile.Unfolds t first r₁ t₁) (hfinds : Finds t first f₁)
    (htaken : ¬ first.RefusesStatus) :
    ∃ s, t₁.status = some s ∧ s.Shows (requested f₁) (observed first f₁) := by
  obtain ⟨front, rest, m, now, hsplit, -, -, htold⟩ := tells_of_finds h hfinds
  have hrest : ¬ rest.RefusesStatus := by
    rw [hsplit, Dialogue.refusesStatus_append] at htaken
    exact fun hrefused => htaken (.inr hrefused)
  exact ⟨_, htold.taken hrest, Status.shows_next now t.status _ _⟩

/-- A pass writes no status where the topic has one that shows what it asks for. -/
theorem silent_reconcile (h : reconcile.Unfolds t₂ second r₂ t₃) (hfinds : Finds t₂ second f₂)
    {s : Status} (hstatus : t₂.status = some s)
    (hshows : s.Shows (requested f₂) (observed second f₂)) :
    ∀ e ∈ second, ¬ e.query.WritesStatus := by
  obtain ⟨front, rest, m, now, hsplit, hfront, hsame, htold⟩ := tells_of_finds h hfinds
  rw [hstatus, hshows.next_eq now] at htold
  intro e he
  rw [hsplit] at he
  exact (List.mem_append.1 he).elim (hfront e) (htold.silent (hsame.trans hstatus) e)

theorem failureConditions_of_other {e : PassError} (h : e.isCreateTopic = false) :
    failureConditions e = [.reconcileError e.report] := by
  unfold failureConditions
  rw [h]
  rfl

/-- A cleanup whose statuses were taken leaves one that shows all that it asked for. -/
theorem shows_of_cleanup (h : cleanup.Unfolds t first r₁ t₁) (htaken : ¬ first.RefusesStatus) :
    ∃ s, t₁.status = some s ∧ s.Shows [.deleting] none ∧
      ∀ e, r₁ = .error e → s.Shows [.reconcileError e.report] none := by
  have hpass := cleanup_tells t _ _ _ h
  clear h
  cases hpass with
  | refused now htold hrefused cause => exact absurd hrefused htaken
  | deleted now htold hfirst hdelete =>
      exact ⟨_, htold.taken hfirst, Status.shows_next now t.status _ _, by rintro _ ⟨⟩⟩
  | @failed front second third e m t₁ now later htold hfirst hdelete hfailure =>
      have hthird : ¬ third.RefusesStatus := by
        rw [Dialogue.refusesStatus_append, Dialogue.refusesStatus_append] at htaken
        exact fun hrefused => htaken (.inr (.inr hrefused))
      have hdeleting := Status.shows_next now t.status [.deleting] none
      have hstatus := hfailure.taken hthird
      rw [failureStatus, htold.taken hfirst, failureConditions_of_other (hdelete.other e rfl)] at hstatus
      refine ⟨_, hstatus, hdeleting.next_others later ?_, ?_⟩
      · -- What was asked for first is a condition of another type.
        intro type new hnew
        cases type with
        | ready => rfl
        | synced => cases hnew
      · rintro _ ⟨⟩
        exact Status.shows_next later _ _ _

/-- A cleanup writes no status where the topic has one that shows all that it asks for. -/
theorem silent_cleanup (h : cleanup.Unfolds t₂ second r₂ t₃) {s : Status}
    (hstatus : t₂.status = some s) (hdeleting : s.Shows [.deleting] none)
    (hfailed : ∀ e, r₂ = .error e → s.Shows [.reconcileError e.report] none) :
    ∀ e ∈ second, ¬ e.query.WritesStatus := by
  have hpass := cleanup_tells t₂ _ _ _ h
  clear h
  have hnext (now : Instant) : Status.next now t₂.status [.deleting] none = s := by
    rw [hstatus]
    exact hdeleting.next_eq now
  have hsilent {m m' : Topic} {talk : Dialogue} {result : Except PassError Unit}
      (hdelete : Deletion m talk result m') : ∀ e ∈ talk, ¬ e.query.WritesStatus :=
    fun e he => mt Query.WritesStatus.isWrite (hdelete.writesNothing e he)
  cases hpass with
  | refused now htold _ _ =>
      rw [hnext] at htold
      exact htold.silent hstatus
  | deleted now htold _ hdelete =>
      rw [hnext] at htold
      exact List.forall_mem_append.2 ⟨htold.silent hstatus, hsilent hdelete⟩
  | @failed front middle third e m t₃ now later htold hfirst hdelete hfailure =>
      rw [hnext] at htold
      have hkept := htold.taken hfirst
      have hsame : failureStatus later m e = s := by
        rw [failureStatus, hkept, failureConditions_of_other (hdelete.other e rfl)]
        exact (hfailed e rfl).next_eq later
      rw [hsame] at hfailure
      exact List.forall_mem_append.2 ⟨htold.silent hstatus,
        List.forall_mem_append.2 ⟨hsilent hdelete, hfailure.silent hkept⟩⟩

/-- Of two passes of one kind that come to the same, one after the other, the second one writes no
status, where the statuses of the first one were taken.  Passes that came into line have to observe
the same. -/
theorem no_status_churn (htaken : ¬ first.RefusesStatus) (hcarried : t₁.CarriedTo t₂) :
    (∀ f₁ f₂, reconcile.Unfolds t first r₁ t₁ → Finds t first f₁ →
      reconcile.Unfolds t₂ second r₂ t₃ → Finds t₂ second f₂ → SameFinding f₁ f₂ →
      (∀ outcome, f₁ = .ok outcome → outcome.Aligned →
        first.attributesRead.map Observation.ofAttributes =
          second.attributesRead.map Observation.ofAttributes) →
      ∀ e ∈ second, ¬ e.query.WritesStatus) ∧
    (cleanup.Unfolds t first r₁ t₁ → cleanup.Unfolds t₂ second r₂ t₃ → SameFinding r₁ r₂ →
      ∀ e ∈ second, ¬ e.query.WritesStatus) := by
  constructor
  · intro f₁ f₂ hfirst hfinds hsecond hfinds' hsame hread
    obtain ⟨s, hstatus, hshows⟩ := shows_of_reconcile hfirst hfinds htaken
    obtain ⟨s', hstatus', hkept⟩ := hcarried.shows hstatus
    refine silent_reconcile hsecond hfinds' hstatus' ?_
    rw [← requested_congr hsame (genuine_of_finds hfinds) (genuine_of_finds hfinds'),
      ← observed_congr hsame hread]
    exact hkept _ _ hshows
  · intro hfirst hsecond hsame
    obtain ⟨s, hstatus, hdeleting, hfailed⟩ := shows_of_cleanup hfirst htaken
    obtain ⟨s', hstatus', hkept⟩ := hcarried.shows hstatus
    refine silent_cleanup hsecond hstatus' (hkept _ _ hdeleting) ?_
    rintro e rfl
    cases hsame with
    | failed hreport =>
        rw [← hreport]
        exact hkept _ _ (hfailed _ rfl)

/-- A topic that cannot be created, twice.  In between it was read from what it was written as,
where its times have lost their nanoseconds. -/
theorem no_status_churn_uncreated :
    let w : Instant → World := fun now =>
      { region := "us-east-1", clock := now, remote := { failAt := some 0 } }
    let topic := Topic.new "orders" { region := "us-east-1" }
    let left := ((w ⟨5⟩).perform topic reconcile).topic
    ∃ again, Topic.ofJson? left.toJson = some again ∧ again.status ≠ left.status ∧
      ∀ e ∈ (w ⟨3000000000⟩).exchanges again reconcile, ¬ e.query.WritesStatus := by
  intro w topic left
  let e : PassError := .createTopic "orders" (.transport "CreateTopic" (.injected 0))
  have hreadable : (Topic.ofJson? left.toJson).isSome = true := by decide +kernel
  let again := (Topic.ofJson? left.toJson).getD topic
  have hread : Topic.ofJson? left.toJson = some again := by
    obtain ⟨found, hfound⟩ := Option.isSome_iff_exists.1 hreadable
    show _ = some ((Topic.ofJson? left.toJson).getD topic)
    rw [hfound]
    rfl
  have hfirst : ((w ⟨5⟩).perform topic reconcile).result = .error e := by decide
  have hsecond : ((w ⟨3000000000⟩).perform again reconcile).result = .error e := by decide +kernel
  have hfinds {now : Instant} {t : Topic} (h : ((w now).perform t reconcile).result = .error e) :
      Finds t ((w now).exchanges t reconcile) (.error e) := by
    have hpass := reconcile_tells_status ((w now).unfolds t reconcile)
    refine (hpass.error e h).resolve_right ?_
    rintro ⟨-, cause, hcause⟩
    change PassError.createTopic _ _ = .persistStatus cause at hcause
    cases hcause
  have htaken : ¬ ((w ⟨5⟩).exchanges topic reconcile).RefusesStatus := by
    intro hrefused
    have hsame := (reconcile_tells_status ((w ⟨5⟩).unfolds topic reconcile)).refused hrefused
    revert hsame
    decide
  refine ⟨again, hread, by decide +kernel, ?_⟩
  refine (no_status_churn htaken (.inr hread)).1 _ _ ((w ⟨5⟩).unfolds topic reconcile) (hfinds hfirst)
    ((w ⟨3000000000⟩).unfolds again reconcile) (hfinds hsecond) (.failed rfl) ?_
  rintro _ ⟨⟩

end Lifecycle

end TopicOperator
