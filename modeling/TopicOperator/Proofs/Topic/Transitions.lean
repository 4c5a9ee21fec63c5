import Mathlib.Data.List.Induction
import TopicOperator.Proofs.Topic.Conditions

/-!
# Conditions over a history

Conditions advance through a history of renewals, each made at its own time.  What is stored of a type
is told by what was there at the start and by the renewals: its status, reason and message are those
that were given last, and the time of its last transition is the time of the last renewal that moved
it.  A renewal moves a type if it gives a condition that was absent, had another status or reason, or
had no time; the times that renewals carry themselves do not count.  One renewal settles each type on
its own, so all of this follows from what one renewal does to one type.
-/

namespace TopicOperator

/-- Conditions that are asked for at some time. -/
structure Renewal where
  time : Instant
  asked : List Condition

namespace Condition

/-- Conditions after renewals, one after the other. -/
def advanceThrough (current : List Condition) (history : List Renewal) : List Condition :=
  history.foldl (fun conditions renewal => advance renewal.time conditions renewal.asked) current

/-- The condition of a type that was given last: the last one in the latest renewal that has any, or
else the last one at the start. -/
def lastGiven (type : ConditionType) (current : List Condition) (history : List Renewal) :
    Option Condition :=
  (history.reverse.findSome? fun renewal => latest type renewal.asked).or (latest type current)

/-- A renewal moves a type: it gives a condition that was absent, had another status or reason, or had
no time. -/
def Moves (type : ConditionType) (conditions : List Condition) (renewal : Renewal) : Prop :=
  ∃ new, latest type renewal.asked = some new ∧
    ∀ old, latest type conditions = some old →
      old.status ≠ new.status ∨ old.reason ≠ new.reason ∨ old.lastTransition = none

/-- No renewal of a history moves a type. -/
def Rests (type : ConditionType) (current : List Condition) (history : List Renewal) : Prop :=
  ∀ n renewal, history[n]? = some renewal →
    ¬ Moves type (advanceThrough current (history.take n)) renewal

variable {type : ConditionType} {current : List Condition} {history : List Renewal}
  {renewal : Renewal}

theorem latest_isSome_iff (type : ConditionType) (conditions : List Condition) :
    (latest type conditions).isSome = true ↔ ∃ c ∈ conditions, c.type = type := by
  simp [latest, List.find?_isSome]

theorem advanceThrough_append (first second : List Renewal) :
    advanceThrough current (first ++ second) =
      advanceThrough (advanceThrough current first) second :=
  List.foldl_append

theorem advanceThrough_concat (history : List Renewal) (renewal : Renewal) :
    advanceThrough current (history ++ [renewal]) =
      advance renewal.time (advanceThrough current history) renewal.asked :=
  advanceThrough_append history [renewal]

theorem latest_advanceThrough_concat (history : List Renewal) (renewal : Renewal) :
    latest type (advanceThrough current (history ++ [renewal])) =
      settle renewal.time (latest type (advanceThrough current history))
        (latest type renewal.asked) := by
  rw [advanceThrough_concat, latest_advance]

/-! ## What one renewal does to one type -/

/-- What is given is stored, at some time. -/
theorem untimed_settle_eq (now : Instant) (old new : Option Condition) :
    (settle now old new).map untimed = (new.or old).map untimed := by
  cases new with
  | none => rw [settle_none, Option.none_or]
  | some new =>
      obtain ⟨time, htime⟩ := settle_some now old new
      rw [htime]
      rfl

/-- A renewal that moves a type sets the time of its last transition. -/
theorem lastTransition_of_moves {conditions : List Condition} (h : Moves type conditions renewal) :
    ∃ c, latest type (advance renewal.time conditions renewal.asked) = some c ∧
      c.lastTransition = some renewal.time := by
  obtain ⟨new, hnew, hmoved⟩ := h
  rw [latest_advance, hnew]
  cases hold : latest type conditions with
  | none => exact ⟨_, rfl, rfl⟩
  | some old =>
      refine ⟨_, rfl, ?_⟩
      have hchange := hmoved old hold
      simp only [transitionTime]
      split
      · rename_i hsame
        obtain hstatus | hreason | htime := hchange
        · exact absurd hsame.1 hstatus
        · exact absurd hsame.2 hreason
        · rw [htime, Option.none_or]
      · rfl

/-- A renewal that does not move a type keeps the time of its last transition, if it is there. -/
theorem lastTransition_of_not_moves {conditions : List Condition}
    (h : ¬ Moves type conditions renewal) :
    (latest type (advance renewal.time conditions renewal.asked)).map lastTransition =
      (latest type conditions).map lastTransition := by
  rw [latest_advance]
  cases hnew : latest type renewal.asked with
  | none => rw [settle_none]
  | some new =>
      cases hold : latest type conditions with
      | none =>
          -- A type that was absent is moved by whatever is given for it.
          exact absurd ⟨new, hnew, fun old hsome => by rw [hold] at hsome; cases hsome⟩ h
      | some old =>
          have hkept : old.status = new.status ∧ old.reason = new.reason ∧
              old.lastTransition ≠ none := by
            by_contra hchange
            refine h ⟨new, hnew, fun other hother => ?_⟩
            obtain rfl : old = other := Option.some.inj (hold.symm.trans hother)
            grind
          obtain ⟨hstatus, hreason, htime⟩ := hkept
          obtain ⟨time, htime⟩ := Option.ne_none_iff_exists'.1 htime
          simp [settle, transitionTime, hstatus, hreason, htime]

/-! ## What a history does to one type -/

/-- What is stored of a type is what was given last, at some time. -/
theorem untimed_advanceThrough (type : ConditionType) (current : List Condition)
    (history : List Renewal) :
    (latest type (advanceThrough current history)).map untimed =
      (lastGiven type current history).map untimed := by
  induction history using List.reverseRecOn with
  | nil => rfl
  | append_singleton history renewal ih =>
      rw [latest_advanceThrough_concat, untimed_settle_eq, lastGiven, List.reverse_append,
        List.reverse_singleton, List.singleton_append, List.findSome?_cons]
      cases latest type renewal.asked with
      | none => exact ih
      | some new => rfl

/-- While nothing moves a type, the time of its last transition stays. -/
theorem lastTransition_of_rests (h : Rests type current history) :
    (latest type (advanceThrough current history)).map lastTransition =
      (latest type current).map lastTransition := by
  induction history using List.reverseRecOn with
  | nil => rfl
  | append_singleton history renewal ih =>
      have hlast : ¬ Moves type (advanceThrough current history) renewal := by
        have hmoves := h history.length renewal (by simp)
        rwa [List.take_left' rfl] at hmoves
      have hbefore : Rests type current history := by
        intro n earlier hearlier
        have hn := (List.getElem?_eq_some_iff.1 hearlier).1
        have hmoves := h n earlier (by rw [List.getElem?_append_left hn, hearlier])
        rwa [List.take_append_of_le_length (Nat.le_of_lt hn)] at hmoves
      rw [advanceThrough_concat, lastTransition_of_not_moves hlast, ih hbefore]

/-- A type has the time of the renewal that moved it, as long as nothing moves it again. -/
theorem lastTransition_of_moved {n : Nat} (hrenewal : history[n]? = some renewal)
    (hmoves : Moves type (advanceThrough current (history.take n)) renewal)
    (hrests : ∀ m later, n < m → history[m]? = some later →
      ¬ Moves type (advanceThrough current (history.take m)) later) :
    (latest type (advanceThrough current history)).map lastTransition =
      some (some renewal.time) := by
  have htake : history.take (n + 1) = history.take n ++ [renewal] := by
    rw [List.take_add_one, hrenewal]
    rfl
  obtain ⟨c, hc, htime⟩ := lastTransition_of_moves hmoves
  rw [← advanceThrough_concat, ← htake] at hc
  -- From there on the rest of the history is one in which the type rests.
  have hrest : Rests type (advanceThrough current (history.take (n + 1)))
      (history.drop (n + 1)) := by
    intro m later hlater
    rw [List.getElem?_drop] at hlater
    rw [← advanceThrough_append, ← List.take_add]
    exact hrests (n + 1 + m) later (by omega) hlater
  have hkept := lastTransition_of_rests hrest
  rw [← advanceThrough_append, List.take_append_drop, hc, Option.map_some, htime] at hkept
  exact hkept

/-! ## The whole result -/

/-- What a type is settled to is of this type. -/
theorem type_of_settle_latest {now : Instant} {conditions updates : List Condition} {c : Condition}
    (h : settle now (latest type conditions) (latest type updates) = some c) : c.type = type :=
  type_of_settle (fun _ => type_of_latest) (fun _ => type_of_latest) h

/-- Conditions advance to at most one condition of each type, in the order of the types. -/
theorem map_type_advance_sublist (now : Instant) (conditions updates : List Condition) :
    ((advance now conditions updates).map Condition.type).Sublist ConditionType.all := by
  have htypes : ∀ types : List ConditionType, ((types.filterMap fun type =>
      settle now (latest type conditions) (latest type updates)).map Condition.type).Sublist
        types := by
    intro types
    induction types with
    | nil => exact .slnil
    | cons type rest ih =>
        rw [List.filterMap_cons]
        cases hsettled : settle now (latest type conditions) (latest type updates) with
        | none => exact ih.cons type
        | some c =>
            rw [List.map_cons, type_of_settle_latest hsettled]
            exact ih.cons_cons type
  exact htypes ConditionType.all

/-- A condition of an advanced list is the last one of its type. -/
theorem mem_advance_iff {now : Instant} {conditions updates : List Condition} {c : Condition} :
    c ∈ advance now conditions updates ↔
      latest c.type (advance now conditions updates) = some c := by
  constructor
  · intro hmem
    obtain ⟨type, -, hsettled⟩ := List.mem_filterMap.1 hmem
    obtain rfl := type_of_settle_latest hsettled
    rw [latest_advance, hsettled]
  · intro hlatest
    rw [latest] at hlatest
    exact List.mem_reverse.1 (List.mem_of_find?_eq_some hlatest)

theorem isSome_lastGiven_iff (type : ConditionType) (current : List Condition)
    (history : List Renewal) : (lastGiven type current history).isSome = true ↔
      (∃ c ∈ current, c.type = type) ∨ ∃ renewal ∈ history, ∃ c ∈ renewal.asked, c.type = type := by
  simp only [lastGiven, Option.isSome_or, Bool.or_eq_true, List.findSome?_isSome_iff,
    List.mem_reverse, latest_isSome_iff]
  exact or_comm

/-- What conditions are after a history of renewals. -/
structure ToldBy (current : List Condition) (history : List Renewal) (result : List Condition) :
    Prop where
  /-- There is at most one condition of each type, in the order of the types. -/
  ordered : (result.map Condition.type).Sublist ConditionType.all
  /-- A type is there if it was at the start or was given by some renewal. -/
  present : ∀ type, (∃ c ∈ result, c.type = type) ↔
    (∃ c ∈ current, c.type = type) ∨ ∃ renewal ∈ history, ∃ c ∈ renewal.asked, c.type = type
  /-- Status, reason and message are those that were given last. -/
  given : ∀ c ∈ result, ∃ last, lastGiven c.type current history = some last ∧
    c.status = last.status ∧ c.reason = last.reason ∧ c.message = last.message
  /-- The time of the last transition is the time of the last renewal that moved the type. -/
  moved : ∀ c ∈ result, ∀ n renewal, history[n]? = some renewal →
    Moves c.type (advanceThrough current (history.take n)) renewal →
    (∀ m later, n < m → history[m]? = some later →
      ¬ Moves c.type (advanceThrough current (history.take m)) later) →
    c.lastTransition = some renewal.time
  /-- If no renewal moved the type, it is the time of the last condition at the start. -/
  unmoved : ∀ c ∈ result, Rests c.type current history → ∃ first,
    latest c.type current = some first ∧ c.lastTransition = first.lastTransition

/-- After any renewals, of which there is at least one, the conditions are told by what was there at
the start and by the renewals: what was given last, since the last real transition. -/
theorem transition_times_over_history (current : List Condition) {history : List Renewal}
    (hsome : history ≠ []) : ToldBy current history (advanceThrough current history) := by
  have hshown : ∀ type, (latest type (advanceThrough current history)).map untimed =
      (lastGiven type current history).map untimed :=
    fun type => untimed_advanceThrough type current history
  -- The last renewal leaves an advanced list, in which each condition is the only one of its type.
  have hlatest : (((advanceThrough current history).map Condition.type).Sublist
      ConditionType.all) ∧ ∀ c ∈ advanceThrough current history,
        latest c.type (advanceThrough current history) = some c := by
    obtain ⟨before, renewal, rfl⟩ := (List.eq_nil_or_concat history).resolve_left hsome
    rw [List.concat_eq_append, advanceThrough_concat]
    exact ⟨map_type_advance_sublist _ _ _, fun c hc => mem_advance_iff.1 hc⟩
  obtain ⟨hordered, hlatest⟩ := hlatest
  refine ⟨hordered, fun type => ?_, fun c hc => ?_, fun c hc n renewal hrenewal hmoves hrests => ?_,
    fun c hc hrests => ?_⟩
  · rw [← latest_isSome_iff, ← isSome_lastGiven_iff]
    have h := congrArg Option.isSome (hshown type)
    rw [Option.isSome_map, Option.isSome_map] at h
    rw [h]
  · have h := hshown c.type
    rw [hlatest c hc] at h
    obtain ⟨last, hlast, heq⟩ := Option.map_eq_some_iff.1 h.symm
    exact ⟨last, hlast, (congrArg status heq).symm, (congrArg reason heq).symm,
      (congrArg message heq).symm⟩
  · have h := lastTransition_of_moved hrenewal hmoves hrests
    rw [hlatest c hc] at h
    exact Option.some.inj h
  · have h := lastTransition_of_rests hrests
    rw [hlatest c hc] at h
    obtain ⟨first, hfirst, heq⟩ := Option.map_eq_some_iff.1 h.symm
    exact ⟨first, hfirst, heq.symm⟩

/-- A type that is given twice at the start, the second time without a time; an error that comes again
with another message; and a time in a renewal, which does not count. -/
theorem transition_times_over_history_repeated :
    let current : List Condition := [{ available with lastTransition := some ⟨1⟩ }, unavailable]
    let history : List Renewal :=
      [⟨⟨10⟩, [{ unavailable with lastTransition := some ⟨99⟩ }, reconcileError "first"]⟩,
        ⟨⟨20⟩, [reconcileError "second"]⟩, ⟨⟨30⟩, [available, unavailable]⟩,
        ⟨⟨40⟩, [reconcileSuccess]⟩, ⟨⟨50⟩, [reconcileSuccess]⟩]
    history ≠ [] ∧ ToldBy current history (advanceThrough current history) ∧
      advanceThrough current (history.take 3) =
        [{ unavailable with lastTransition := some ⟨10⟩ },
          { reconcileError "second" with lastTransition := some ⟨10⟩ }] ∧
      advanceThrough current history =
        [{ unavailable with lastTransition := some ⟨10⟩ },
          { reconcileSuccess with lastTransition := some ⟨40⟩ }] := by
  intro current history
  exact ⟨List.cons_ne_nil _ _, transition_times_over_history current (List.cons_ne_nil _ _),
    by decide, by decide⟩

end Condition

end TopicOperator
