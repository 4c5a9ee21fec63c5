import TopicOperator.Topic.Status

/-!
# How conditions advance

The condition of each type advances on its own: after updates it is settled from the one before and
the last update of its type.  The time of a settled condition stays when the same updates come again,
so asking for the same conditions once more changes nothing, whatever the time is then.
-/

namespace TopicOperator

namespace Condition

variable {now : Instant} {type : ConditionType}

theorem type_of_latest {conditions : List Condition} {c : Condition}
    (h : latest type conditions = some c) : c.type = type := by
  have hfound := List.find?_some h
  exact of_decide_eq_true hfound

/-- Conditions of a type are settled to a condition of this type. -/
theorem type_of_settle {old new : Option Condition} {c : Condition}
    (hold : ∀ b, old = some b → b.type = type) (hnew : ∀ b, new = some b → b.type = type)
    (h : settle now old new = some c) : c.type = type := by
  cases old with
  | none =>
      cases new with
      | none => cases h
      | some new =>
          obtain rfl := Option.some.inj h
          exact hnew new rfl
  | some old =>
      cases new with
      | none =>
          obtain rfl := Option.some.inj h
          exact hold old rfl
      | some new =>
          obtain rfl := Option.some.inj h
          exact hnew new rfl

/-- In a list with at most one condition of each type, this is the last one of its type. -/
theorem latest_filterMap_all {f : ConditionType → Option Condition}
    (htype : ∀ type c, f type = some c → c.type = type) (type : ConditionType) :
    latest type (ConditionType.all.filterMap f) = f type := by
  unfold latest ConditionType.all
  cases hready : f .ready with
  | none =>
      cases hsynced : f .synced with
      | none => cases type <;> simp [hready, hsynced]
      | some synced =>
          have hs := htype .synced synced hsynced
          cases type <;> simp [hready, hsynced, hs]
  | some ready =>
      have hr := htype .ready ready hready
      cases hsynced : f .synced with
      | none => cases type <;> simp [hready, hsynced, hr]
      | some synced =>
          have hs := htype .synced synced hsynced
          cases type <;> simp [hready, hsynced, hr, hs]

/-- Each type advances on its own. -/
theorem latest_advance (now : Instant) (current updates : List Condition) (type : ConditionType) :
    latest type (advance now current updates) =
      settle now (latest type current) (latest type updates) := by
  unfold advance
  rw [latest_filterMap_all]
  intro type c h
  exact type_of_settle (fun _ => type_of_latest) (fun _ => type_of_latest) h

/-- A condition apart from the time of its last transition. -/
def untimed (c : Condition) : Condition := { c with lastTransition := none }

/-- A condition that is updated becomes the new one, at some time. -/
theorem settle_some (now : Instant) (old : Option Condition) (new : Condition) :
    ∃ time, settle now old (some new) = some { new with lastTransition := some time } := by
  cases old with
  | none => exact ⟨now, rfl⟩
  | some old =>
      simp only [settle, transitionTime]
      split
      · cases old.lastTransition with
        | none => exact ⟨now, rfl⟩
        | some time => exact ⟨time, rfl⟩
      · exact ⟨now, rfl⟩

theorem settle_none (now : Instant) (old : Option Condition) : settle now old none = old := by
  cases old <;> rfl

/-- A condition that has a time keeps it when it comes again. -/
theorem settle_same (later time : Instant) (new : Condition) :
    settle later (some { new with lastTransition := some time }) (some new) =
      some { new with lastTransition := some time } := by
  simp [settle, transitionTime]

theorem advance_eq (now : Instant) (current updates : List Condition) :
    advance now current updates =
      (settle now (latest .ready current) (latest .ready updates)).toList ++
        (settle now (latest .synced current) (latest .synced updates)).toList := by
  unfold advance ConditionType.all
  cases hready : settle now (latest .ready current) (latest .ready updates) <;>
    cases hsynced : settle now (latest .synced current) (latest .synced updates) <;>
      simp [hready, hsynced]

variable {updates : List Condition} {ready synced : Condition}

theorem advance_both (now : Instant) (current : List Condition)
    (hready : latest .ready updates = some ready) (hsynced : latest .synced updates = some synced) :
    (advance now current updates).map untimed = [ready.untimed, synced.untimed] := by
  obtain ⟨first, hfirst⟩ := settle_some now (latest .ready current) ready
  obtain ⟨second, hsecond⟩ := settle_some now (latest .synced current) synced
  rw [advance_eq, hready, hsynced, hfirst, hsecond]
  rfl

theorem advance_synced (now : Instant) (current : List Condition)
    (hready : latest .ready updates = none) (hsynced : latest .synced updates = some synced) :
    ∃ second, advance now current updates = (latest .ready current).toList ++ [second] ∧
      second.untimed = synced.untimed := by
  obtain ⟨time, hsecond⟩ := settle_some now (latest .synced current) synced
  rw [advance_eq, hready, hsynced, hsecond, settle_none]
  exact ⟨_, rfl, rfl⟩

end Condition

namespace Status

/-- A status shows what is asked for: conditions, at whatever time each, and what was observed, if
anything.  It has at most one condition of each type, in order. -/
structure Shows (s : Status) (updates : List Condition) (observation : Option Observation) : Prop where
  ordered : s.conditions =
    ConditionType.all.filterMap fun type => Condition.latest type s.conditions
  asked : ∀ type new, Condition.latest type updates = some new →
    ∃ time, Condition.latest type s.conditions = some { new with lastTransition := some time }
  observed : ∀ o, observation = some o → s.atProvider = o

variable {s : Status} {updates others : List Condition} {observation : Option Observation}

/-- The next status shows what was asked for. -/
theorem shows_next (now : Instant) (current : Option Status) (updates : List Condition)
    (observation : Option Observation) :
    (next now current updates observation).Shows updates observation := by
  have hlatest := Condition.latest_advance now (current.getD {}).conditions updates
  refine ⟨?_, fun type new hnew => ?_, ?_⟩
  · show Condition.advance now _ updates = ConditionType.all.filterMap fun type =>
      Condition.latest type (Condition.advance now _ updates)
    simp only [hlatest]
    rfl
  · show ∃ time, Condition.latest type (Condition.advance now _ updates) = _
    rw [hlatest, hnew]
    exact Condition.settle_some now _ new
  · rintro o rfl
    rfl

/-- A status that shows what is asked for is the next one of itself, whatever the time is then. -/
theorem Shows.next_eq (h : s.Shows updates observation) (later : Instant) :
    next later (some s) updates observation = s := by
  have hsettled : ∀ type, Condition.settle later (Condition.latest type s.conditions)
      (Condition.latest type updates) = Condition.latest type s.conditions := by
    intro type
    cases hnew : Condition.latest type updates with
    | none => exact Condition.settle_none later _
    | some new =>
        obtain ⟨time, hlatest⟩ := h.asked type new hnew
        rw [hlatest, Condition.settle_same]
  have hconditions : Condition.advance later s.conditions updates = s.conditions := by
    rw [Condition.advance]
    simp only [hsettled]
    exact h.ordered.symm
  have hobserved : observation.getD s.atProvider = s.atProvider := by
    cases observation with
    | none => rfl
    | some o => exact (h.observed o rfl).symm
  simp only [next, Option.getD_some, hconditions, hobserved]

/-- What a status shows of some types it still shows when conditions of other types are asked for. -/
theorem Shows.next_others (h : s.Shows updates none) (later : Instant)
    (hothers : ∀ type new, Condition.latest type updates = some new →
      Condition.latest type others = none) :
    (next later (some s) others none).Shows updates none := by
  refine ⟨(shows_next later (some s) others none).ordered, fun type new hnew => ?_, by rintro _ ⟨⟩⟩
  obtain ⟨time, hlatest⟩ := h.asked type new hnew
  refine ⟨time, ?_⟩
  show Condition.latest type (Condition.advance later s.conditions others) = _
  rw [Condition.latest_advance, hothers type new hnew, Condition.settle_none, hlatest]

/-- A status that holds what was asked for and what was observed is the next one of itself. -/
theorem next_next (now later : Instant) (current : Option Status) (updates : List Condition)
    (observation : Observation) :
    next later (some (next now current updates (some observation))) updates (some observation) =
      next now current updates (some observation) :=
  (shows_next now current updates (some observation)).next_eq later

end Status

end TopicOperator
