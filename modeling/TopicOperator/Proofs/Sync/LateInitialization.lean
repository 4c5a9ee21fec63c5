import TopicOperator.Proofs.Sync.Demand

/-!
# Late initialization over a history

Parameters are completed by one snapshot of the remote topic after the other.  A part of them that is
declared at the start, or that a snapshot has filled, is never touched again; an open part is filled by
the first snapshot that offers a usable value for it, and stays open if none does.  All parts follow
one law, `part_completedThrough`.  Every call that reports a change closes at least one part, and there
are seven of them, so at most seven calls of a history do.
-/

namespace TopicOperator

/-- A part of the parameters that may be declared or left open. -/
inductive Parameters.Part where
  | setting (a : Attribute)
  | tags
deriving DecidableEq, Repr

/-- What may be declared for a part of the parameters. -/
inductive Parameters.Value where
  | text (value : String)
  | flag (value : Bool)
  | tags (map : TextMap String)
deriving DecidableEq

namespace Parameters.Part

/-- All parts. -/
def all : List Part := Attribute.all.map setting ++ [tags]

theorem mem_all (d : Part) : d ∈ all := by
  cases d with
  | setting a => exact List.mem_append_left _ (List.mem_map.2 ⟨a, a.mem_all, rfl⟩)
  | tags => exact List.mem_append_right _ List.mem_cons_self

theorem length_all : all.length = 7 := rfl

end Parameters.Part

/-- What is declared by a setting, if anything. -/
def Setting.value : Setting → Option Parameters.Value
  | text value => value.map .text
  | flag value => value.map .flag

/-- What a snapshot offers for a part of the parameters: a text that is not empty, a flag that can be
read, and the tags, if there are any, where the last value of a key counts. -/
def Snapshot.offers (snapshot : Snapshot) : Parameters.Part → Option Parameters.Value
  | .setting a =>
      match a.comparison with
      | .text => ((a.observed snapshot.attributes).filter fun s => !s.isEmpty).map .text
      | .flag => ((a.observed snapshot.attributes).bind readFlag).map .flag
  | .tags => if snapshot.tags.isEmpty then none else some (.tags (Tag.collapse snapshot.tags))

namespace Parameters

/-- What is declared for a part of the parameters, if anything. -/
def part (p : Parameters) : Part → Option Value
  | .setting a => (p.setting a).value
  | .tags => p.tags.map .tags

/-- Parameters completed by one snapshot after the other. -/
def completedThrough (p : Parameters) (history : List Snapshot) : Parameters :=
  history.foldl completedBy p

/-- What is reported, one snapshot after the other, of whether it filled anything. -/
def gains (p : Parameters) : List Snapshot → List Bool
  | [] => []
  | snapshot :: rest => p.gainsFrom snapshot :: (p.completedBy snapshot).gains rest

variable (p : Parameters) (snapshot : Snapshot) (history : List Snapshot)

/-- Parameters are told by their region and their parts. -/
theorem ext_part {p q : Parameters} (hregion : p.region = q.region)
    (hpart : ∀ d, p.part d = q.part d) : p = q := by
  have hvalue : ∀ a, (p.setting a).value = (q.setting a).value := fun a => hpart (.setting a)
  refine ext_setting hregion (fun a => ?_) ?_
  · have h := hvalue a
    cases a <;> simpa [setting, Setting.value, Option.map_inj_right] using h
  · simpa [part, Option.map_inj_right] using hpart .tags

/-- One snapshot fills exactly the open parts that it offers something for. -/
theorem part_completedBy (d : Part) :
    (p.completedBy snapshot).part d = (p.part d).or (snapshot.offers d) := by
  cases d with
  | setting a =>
      simp only [part, setting_completedBy]
      cases a <;> simp [setting, Setting.completedBy, Setting.value, Snapshot.offers,
        Attribute.comparison, Option.map_or]
  | tags =>
      simp only [part, Snapshot.offers, completedBy, fillFrom, ofSnapshot, Option.map_or]
      split <;> rfl

theorem completedThrough_cons :
    p.completedThrough (snapshot :: history) = (p.completedBy snapshot).completedThrough history :=
  rfl

theorem completedThrough_take_succ {n : Nat} (h : history[n]? = some snapshot) :
    p.completedThrough (history.take (n + 1)) =
      (p.completedThrough (history.take n)).completedBy snapshot := by
  simp [completedThrough, List.take_add_one, h, List.foldl_append]

theorem region_completedThrough : (p.completedThrough history).region = p.region := by
  induction history generalizing p with
  | nil => rfl
  | cons snapshot rest ih => exact ih (p.completedBy snapshot)

/-- A part keeps what was declared for it, or else takes what the first snapshot offers that offers
anything. -/
theorem part_completedThrough (d : Part) :
    (p.completedThrough history).part d =
      (p.part d).or (history.findSome? fun snapshot => snapshot.offers d) := by
  induction history generalizing p with
  | nil => simp [completedThrough]
  | cons snapshot rest ih =>
      rw [completedThrough_cons, ih, part_completedBy, Option.or_assoc, List.findSome?_cons]
      cases snapshot.offers d <;> rfl

/-- A snapshot changes parameters exactly when it fills an open part. -/
theorem gainsFrom_iff : p.gainsFrom snapshot = true ↔
    ∃ d, p.part d = none ∧ (p.completedBy snapshot).part d ≠ none := by
  rw [gainsFrom, decide_eq_true_iff]
  constructor
  · intro hchanged
    by_contra hnone
    push Not at hnone
    refine hchanged (ext_part rfl fun d => ?_)
    cases hpart : p.part d with
    | none => exact hnone d hpart
    | some value => rw [part_completedBy, hpart, Option.some_or]
  · rintro ⟨d, hopen, hfilled⟩ hsame
    rw [hsame] at hfilled
    exact hfilled hopen

/-- The parts that are open. -/
def openParts : List Part :=
  Part.all.filter fun d => p.part d = none

theorem length_openParts_le : p.openParts.length ≤ 7 := by
  rw [← Part.length_all]
  exact List.length_filter_le _ _

theorem openParts_completedBy_sublist :
    (p.completedBy snapshot).openParts.Sublist p.openParts := by
  refine List.monotone_filter_right _ fun d hopen => ?_
  rw [decide_eq_true_iff, part_completedBy, Option.or_eq_none_iff] at hopen
  exact decide_eq_true hopen.1

/-- A snapshot that changes parameters closes a part. -/
theorem length_openParts_lt (h : p.gainsFrom snapshot = true) :
    (p.completedBy snapshot).openParts.length < p.openParts.length := by
  obtain ⟨d, hopen, hfilled⟩ := (p.gainsFrom_iff snapshot).1 h
  have hsub := p.openParts_completedBy_sublist snapshot
  refine Nat.lt_of_le_of_ne hsub.length_le fun hlength => ?_
  have hmem : d ∈ p.openParts := List.mem_filter.2 ⟨d.mem_all, decide_eq_true hopen⟩
  rw [← hsub.eq_of_length hlength] at hmem
  exact hfilled (of_decide_eq_true (List.mem_filter.1 hmem).2)

/-- The calls that report a change are no more than the parts that were open. -/
theorem count_gains_add_le :
    (p.gains history).count true + (p.completedThrough history).openParts.length ≤
      p.openParts.length := by
  induction history generalizing p with
  | nil => simp [gains, completedThrough]
  | cons snapshot rest ih =>
      have hrest := ih (p.completedBy snapshot)
      rw [gains, completedThrough_cons, List.count_cons]
      cases hgains : p.gainsFrom snapshot with
      | false =>
          have hsame := completedBy_of_not_gainsFrom hgains
          rw [hsame] at hrest ⊢
          simpa using hrest
      | true =>
          have hless := p.length_openParts_lt snapshot hgains
          simp only [beq_self_eq_true, if_true]
          omega

theorem length_gains : (p.gains history).length = history.length := by
  induction history generalizing p with
  | nil => rfl
  | cons snapshot rest ih => exact congrArg Nat.succ (ih (p.completedBy snapshot))

/-- What is reported of a snapshot is whether it fills anything of what the ones before it left. -/
theorem getElem?_gains (n : Nat) : (p.gains history)[n]? =
    history[n]?.map fun snapshot => (p.completedThrough (history.take n)).gainsFrom snapshot := by
  induction history generalizing p n with
  | nil => rfl
  | cons snapshot rest ih =>
      cases n with
      | zero => rfl
      | succ n => exact ih (p.completedBy snapshot) n

/-- The first snapshot that offers something for a part counts as soon as it is in the history. -/
theorem findSome?_offers_take {d : Part} {i : Nat} {value : Value} {snapshot : Snapshot}
    (hsnapshot : history[i]? = some snapshot) (hoffer : snapshot.offers d = some value)
    (hfirst : ∀ j earlier, j < i → history[j]? = some earlier → earlier.offers d = none) (n : Nat) :
    ((history.take n).findSome? fun snapshot => snapshot.offers d) =
      if i < n then some value else none := by
  have hnone : ∀ m ≤ i, ∀ other ∈ history.take m, other.offers d = none := by
    intro m hm other hmem
    obtain ⟨j, hj⟩ := List.mem_iff_getElem?.1 hmem
    rw [List.getElem?_take] at hj
    split at hj
    · exact hfirst j other (by omega) hj
    · cases hj
  obtain ⟨hlength, hget⟩ := List.getElem?_eq_some_iff.1 hsnapshot
  split
  · -- The history up to the snapshot offers nothing, so the snapshot is the first one to be found.
    rename_i hlater
    have hsplit : history.take n = history.take i ++ snapshot :: (history.take n).drop (i + 1) := by
      have hcut := List.take_append_drop i (history.take n)
      rw [List.take_take, Nat.min_eq_left (Nat.le_of_lt hlater), List.drop_eq_getElem_cons
        (by rw [List.length_take]; omega), List.getElem_take, hget] at hcut
      exact hcut.symm
    rw [List.findSome?_eq_some_iff]
    exact ⟨_, _, _, hsplit, hoffer, hnone i (Nat.le_refl i)⟩
  · rename_i hearly
    rw [List.findSome?_eq_none_iff]
    exact hnone n (by omega)

/-- How parameters come through a history of snapshots, whatever part of it they have seen. -/
structure ComesThrough (p : Parameters) (history : List Snapshot) : Prop where
  /-- The region never changes. -/
  region : ∀ n, (p.completedThrough (history.take n)).region = p.region
  /-- What is declared at the start never changes. -/
  declared : ∀ d value, p.part d = some value →
    ∀ n, (p.completedThrough (history.take n)).part d = some value
  /-- An open part is filled by the first snapshot that offers something for it, and then stays. -/
  filled : ∀ d, p.part d = none → ∀ i snapshot value, history[i]? = some snapshot →
    snapshot.offers d = some value →
    (∀ j earlier, j < i → history[j]? = some earlier → earlier.offers d = none) →
    ∀ n, (p.completedThrough (history.take n)).part d = if i < n then some value else none
  /-- A part that no snapshot offers anything for stays open. -/
  unfilled : ∀ d, p.part d = none → (∀ snapshot ∈ history, snapshot.offers d = none) →
    ∀ n, (p.completedThrough (history.take n)).part d = none
  /-- A change is reported exactly when an open part was filled. -/
  reported : ∀ n, (p.gains history)[n]? = some true ↔
    ∃ d, (p.completedThrough (history.take n)).part d = none ∧
      (p.completedThrough (history.take (n + 1))).part d ≠ none
  /-- There is one report for each snapshot, and at most seven of them tell of a change. -/
  reports : (p.gains history).length = history.length ∧ (p.gains history).count true ≤ 7
  /-- A snapshot that comes again at once fills nothing. -/
  again : ∀ n snapshot, history[n]? = some snapshot →
    (p.completedThrough (history.take (n + 1))).gainsFrom snapshot = false

/-- Any parameters come through any history of snapshots so that declared parts stay, open parts take
what is offered first, and changes are reported as they are made. -/
theorem late_initialization_over_history (p : Parameters) (history : List Snapshot) :
    p.ComesThrough history where
  region n := region_completedThrough p (history.take n)
  declared := by
    intro d value hvalue n
    rw [part_completedThrough, hvalue, Option.some_or]
  filled := by
    intro d hopen i snapshot value hsnapshot hoffer hfirst n
    rw [part_completedThrough, hopen, Option.none_or,
      findSome?_offers_take history hsnapshot hoffer hfirst]
  unfilled := by
    intro d hopen hnone n
    rw [part_completedThrough, hopen, Option.none_or, List.findSome?_eq_none_iff]
    exact fun snapshot hmem => hnone snapshot (List.mem_of_mem_take hmem)
  reported := by
    intro n
    rw [getElem?_gains]
    cases hsnapshot : history[n]? with
    | some snapshot =>
        rw [completedThrough_take_succ p snapshot history hsnapshot, Option.map_some,
          Option.some_inj]
        exact gainsFrom_iff _ snapshot
    | none =>
        -- The history is over, and nothing is filled any more.
        have hover := List.getElem?_eq_none_iff.1 hsnapshot
        rw [List.take_of_length_le hover, List.take_of_length_le (Nat.le_succ_of_le hover)]
        simp
  reports := by
    have hcount := p.count_gains_add_le history
    have hopen := p.length_openParts_le
    exact ⟨p.length_gains history, by omega⟩
  again := by
    intro n snapshot hsnapshot
    rw [completedThrough_take_succ p snapshot history hsnapshot]
    exact not_gainsFrom_completedBy _ snapshot

end Parameters

end TopicOperator
