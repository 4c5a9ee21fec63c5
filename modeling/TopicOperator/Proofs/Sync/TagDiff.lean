import TopicOperator.Proofs.Tag.Collapse
import TopicOperator.Sync.Verdict

/-!
# Changes of tags, key by key

The comparison of declared with observed tags walks the observed ones and takes each out of a working
copy of the declared ones.  What it finds for a key depends on the declared and the observed value of
that key alone.
-/

namespace TopicOperator

/-- Declared and observed tags agree: they have the same keys, with values that are equal up to
case. -/
def TagsAgree (desired observed : TextMap String) : Prop :=
  ∀ key, Option.Rel (fun value found => Text.equalCaseless value found = true)
    (desired.get? key) (observed.get? key)

theorem TagsAgree.refl (tags : TextMap String) : TagsAgree tags tags := by
  intro key
  cases tags.get? key with
  | none => exact .none
  | some value => exact .some (Text.equalCaseless_self value)

namespace TagDiff

/-- The value to remove for a key, given its declared and its observed value. -/
def removedValue : Option String → Option String → Option String
  | _, none => none
  | none, some found => some found
  | some value, some found => if Text.equalCaseless value found then none else some found

/-- The value to add for a key, given its declared and its observed value. -/
def addedValue : Option String → Option String → Option String
  | none, _ => none
  | some value, none => some value
  | some value, some found => if Text.equalCaseless value found then none else some value

/-- The value that is left of an observed one when what is to be removed is gone. -/
def keptValue (desired found : Option String) : Option String :=
  if (removedValue desired found).isSome then none else found

/-- What is left is not removed again. -/
theorem removedValue_keptValue (desired found : Option String) :
    removedValue desired (keptValue desired found) = none := by
  unfold keptValue
  cases hremoved : removedValue desired found with
  | none => exact hremoved
  | some value => rfl

/-- A value is to be added whether the one in its place was removed already or not. -/
theorem addedValue_keptValue (desired found : Option String) :
    addedValue desired (keptValue desired found) = addedValue desired found := by
  cases desired with
  | none => rfl
  | some value =>
      cases found with
      | none => rfl
      | some found =>
          by_cases hsame : Text.equalCaseless value found = true
          · simp [keptValue, removedValue, hsame]
          · simp [keptValue, removedValue, addedValue, hsame]

/-- Where nothing is to be removed, adding what is to be added makes values agree. -/
theorem rel_of_removedValue_eq_none {desired found : Option String}
    (h : removedValue desired found = none) :
    Option.Rel (fun value found => Text.equalCaseless value found = true) desired
      ((addedValue desired found).or found) := by
  cases found with
  | none =>
      cases desired with
      | none => exact .none
      | some value => exact .some (Text.equalCaseless_self value)
  | some found =>
      cases desired with
      | none => cases h
      | some value =>
          by_cases hsame : Text.equalCaseless value found = true
          · simp [addedValue, hsame]
          · simp [removedValue, hsame] at h

section Step

variable (pending : TextMap String) (diff : TagDiff) (seen value key : String)

/-- A key that was observed is not pending any more. -/
theorem get?_step_pending : (step (pending, diff) (seen, value)).1.get? key =
    if key = seen then none else pending.get? key := by
  simp only [step]
  split
  · rename_i hnone
    by_cases hkey : key = seen
    · simp [hkey, hnone]
    · simp [hkey]
  · split <;> simp

theorem get?_step_toRemove : (step (pending, diff) (seen, value)).2.toRemove.get? key =
    if key = seen then (removedValue (pending.get? seen) (some value)).or (diff.toRemove.get? seen)
    else diff.toRemove.get? key := by
  simp only [step]
  split
  · rename_i hnone
    by_cases hkey : key = seen <;> simp [hkey, hnone, removedValue]
  · rename_i desired hsome
    by_cases hkey : key = seen <;> by_cases hsame : Text.equalCaseless desired value = true <;>
      simp [hkey, hsome, hsame, removedValue]

theorem get?_step_toAdd : (step (pending, diff) (seen, value)).2.toAdd.get? key =
    if key = seen then (addedValue (pending.get? seen) (some value)).or (diff.toAdd.get? seen)
    else diff.toAdd.get? key := by
  simp only [step]
  split
  · rename_i hnone
    by_cases hkey : key = seen <;> simp [hkey, hnone, addedValue]
  · rename_i desired hsome
    by_cases hkey : key = seen <;> by_cases hsame : Text.equalCaseless desired value = true <;>
      simp [hkey, hsome, hsame, addedValue]

end Step

/-- What the walk over observed tags leaves pending and finds to remove and to add, for one key.  The
keys observed are different, so a step never meets the findings of another one. -/
theorem foldl_step {entries : List (String × String)} (h : Ascending entries)
    (pending : TextMap String) (diff : TagDiff) (key : String) :
    (entries.foldl step (pending, diff)).1.get? key =
        (if (TextMap.lookup key entries).isSome then none else pending.get? key) ∧
      (entries.foldl step (pending, diff)).2.toRemove.get? key =
        (removedValue (pending.get? key) (TextMap.lookup key entries)).or
          (diff.toRemove.get? key) ∧
      (entries.foldl step (pending, diff)).2.toAdd.get? key =
        ((TextMap.lookup key entries).bind fun found =>
          addedValue (pending.get? key) (some found)).or (diff.toAdd.get? key) := by
  induction entries generalizing pending diff with
  | nil => simp [TextMap.lookup, removedValue]
  | cons e rest ih =>
      obtain ⟨seen, value⟩ := e
      have hrest := List.pairwise_cons.1 h
      obtain ⟨hpending, hremove, hadd⟩ := ih hrest.2 (step (pending, diff) (seen, value)).1
        (step (pending, diff) (seen, value)).2
      -- The induction goes on from the state after the first step, which is read key by key.
      rw [List.foldl_cons]
      rw [get?_step_pending] at hpending hremove hadd
      rw [get?_step_toRemove] at hremove
      rw [get?_step_toAdd] at hadd
      by_cases hkey : key = seen
      · -- The key is found here and, keys being ascending, nowhere later.
        subst hkey
        have habsent : TextMap.lookup key rest = none := by
          rw [TextMap.lookup_eq_none_iff]
          intro e he heq
          exact String.lt_irrefl key (heq ▸ hrest.1 e he)
        simp only [habsent, if_true] at hpending hremove hadd
        refine ⟨?_, ?_, ?_⟩
        · rw [hpending]
          simp [TextMap.lookup]
        · rw [hremove]
          simp [TextMap.lookup, removedValue]
        · rw [hadd]
          simp [TextMap.lookup]
      · have hlookup : TextMap.lookup key ((seen, value) :: rest) = TextMap.lookup key rest := by
          simp [TextMap.lookup, Ne.symm hkey]
        simp only [hkey, if_false] at hpending hremove hadd
        rw [hlookup]
        exact ⟨hpending, hremove, hadd⟩

variable (desired : Option (TextMap String)) (observed : List Tag) (key : String)

theorem get?_compute_toRemove : (compute desired observed).toRemove.get? key =
    removedValue ((desired.getD .empty).get? key) ((Tag.collapse observed).get? key) := by
  obtain ⟨-, hremove, -⟩ := foldl_step (Tag.collapse observed).ascending (desired.getD .empty)
    ⟨.empty, .empty⟩ key
  simp only [compute]
  rw [hremove, TextMap.get?_empty, Option.or_none]
  rfl

theorem get?_compute_toAdd : (compute desired observed).toAdd.get? key =
    addedValue ((desired.getD .empty).get? key) ((Tag.collapse observed).get? key) := by
  obtain ⟨hpending, -, hadd⟩ := foldl_step (Tag.collapse observed).ascending (desired.getD .empty)
    ⟨.empty, .empty⟩ key
  simp only [compute]
  rw [TextMap.get?_insertAll_entries, hpending, hadd]
  show _ = addedValue _ (TextMap.lookup key (Tag.collapse observed).entries)
  cases TextMap.lookup key (Tag.collapse observed).entries with
  | none => cases (desired.getD .empty).get? key <;> simp [addedValue]
  | some found => simp

/-- Nothing is to be done for a key exactly when it agrees. -/
theorem values_eq_none_iff (desired found : Option String) :
    addedValue desired found = none ∧ removedValue desired found = none ↔
      Option.Rel (fun value found => Text.equalCaseless value found = true) desired found := by
  cases desired with
  | none => cases found <;> simp [addedValue, removedValue]
  | some value => cases found <;> simp [addedValue, removedValue]

/-- No tag has to change exactly when the tags agree. -/
theorem compute_eq_empty_iff : (compute desired observed).toAdd = .empty ∧
      (compute desired observed).toRemove = .empty ↔
    TagsAgree (desired.getD .empty) (Tag.collapse observed) := by
  rw [TextMap.eq_empty_iff, TextMap.eq_empty_iff, ← forall_and]
  apply forall_congr'
  intro key
  rw [get?_compute_toAdd, get?_compute_toRemove]
  exact values_eq_none_iff _ _

end TagDiff

end TopicOperator
