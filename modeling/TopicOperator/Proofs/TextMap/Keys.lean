import Mathlib.Data.List.Perm.Subperm
import TopicOperator.TextMap.Lemmas

/-!
# Keys of a map

Which keys a map has, when it has none, and how the value of a key is found in a list of entries
that was extended or thinned out by its keys.  A list of entries may repeat a key, a map never does.
-/

namespace TopicOperator.TextMap

variable {α : Type}

theorem lookup_append (key : String) (first second : List (String × α)) :
    lookup key (first ++ second) = (lookup key first).or (lookup key second) := by
  induction first with
  | nil => simp [lookup]
  | cons e rest ih =>
      obtain ⟨k, v⟩ := e
      by_cases hk : k = key
      · simp [lookup, hk]
      · simp [lookup, hk, ih]

/-- Entries that are kept or dropped by their keys lose exactly the dropped keys. -/
theorem lookup_filter (keep : String → Bool) (entries : List (String × α)) (key : String) :
    lookup key (entries.filter fun e => keep e.1) =
      if keep key then lookup key entries else none := by
  induction entries with
  | nil => simp [lookup]
  | cons e rest ih =>
      obtain ⟨k, v⟩ := e
      rw [List.filter_cons]
      by_cases hk : k = key
      · subst hk
        cases hkeep : keep k with
        | true => simp [lookup]
        | false => simpa [hkeep] using ih
      · cases hkeep : keep k with
        | true => simpa [lookup, hk] using ih
        | false => simpa [lookup, hk] using ih

/-- A map that is thinned out by its keys loses exactly the dropped keys. -/
theorem get?_filter_keys (keep : String → Bool) (map : TextMap α) (key : String) :
    (map.filter fun k _ => keep k).get? key = if keep key then map.get? key else none :=
  lookup_filter keep map.entries key

theorem lookup_isSome_iff (key : String) (entries : List (String × α)) :
    (lookup key entries).isSome = true ↔ ∃ e ∈ entries, e.1 = key := by
  rw [Option.isSome_iff_ne_none, ne_eq, lookup_eq_none_iff]
  push Not
  exact Iff.rfl

theorem mem_of_lookup {key : String} {value : α} {entries : List (String × α)}
    (h : lookup key entries = some value) : (key, value) ∈ entries := by
  induction entries with
  | nil => cases h
  | cons e rest ih =>
      obtain ⟨k, v⟩ := e
      by_cases hk : k = key
      · subst hk
        simp only [lookup, if_true, Option.some.injEq] at h
        subst h
        exact List.mem_cons_self
      · simp only [lookup, hk, if_false] at h
        exact List.mem_cons_of_mem _ (ih h)

/-- The value of a key that a list gives one value at most. -/
theorem get?_ofList_eq_some_iff {entries : List (String × α)} {key : String} {value : α}
    (hone : ∀ first second, (key, first) ∈ entries → (key, second) ∈ entries → first = second) :
    (ofList entries).get? key = some value ↔ (key, value) ∈ entries := by
  rw [get?_ofList]
  constructor
  · intro h
    exact List.mem_reverse.1 (mem_of_lookup h)
  · intro hmem
    have hsome : (lookup key entries.reverse).isSome = true :=
      (lookup_isSome_iff key _).2 ⟨_, List.mem_reverse.2 hmem, rfl⟩
    obtain ⟨found, hfound⟩ := Option.isSome_iff_exists.1 hsome
    rw [hfound, hone _ _ (List.mem_reverse.1 (mem_of_lookup hfound)) hmem]

/-- The order of the entries of a map does not matter. -/
theorem lookup_reverse_entries (map : TextMap α) (key : String) :
    lookup key map.entries.reverse = map.get? key := by
  rw [← get?_ofList, ofList_entries]

theorem get?_insertAll_entries (map other : TextMap α) (key : String) :
    (map.insertAll other.entries).get? key = (other.get? key).or (map.get? key) := by
  rw [get?_insertAll, lookup_reverse_entries]

/-- Giving a key the value that it has changes nothing. -/
theorem insert_of_get? {map : TextMap α} {key : String} {value : α}
    (h : map.get? key = some value) : map.insert key value = map := by
  apply ext_get?
  intro k
  rw [get?_insert]
  split
  · rename_i hk
    rw [hk, h]
  · rfl

theorem insert_insert (map : TextMap α) (key : String) (first second : α) :
    (map.insert key first).insert key second = map.insert key second := by
  apply ext_get?
  intro k
  by_cases hk : k = key <;> simp [hk]

/-- A key without a value need not be erased. -/
theorem erase_of_get?_eq_none {map : TextMap α} {key : String} (h : map.get? key = none) :
    map.erase key = map := by
  apply ext_get?
  intro k
  rw [get?_erase]
  split
  · rename_i hk
    rw [hk, h]
  · rfl

theorem erase_erase (map : TextMap α) (key : String) : (map.erase key).erase key = map.erase key :=
  erase_of_get?_eq_none (by simp)

theorem mem_keys_iff {map : TextMap α} {key : String} :
    key ∈ map.keys ↔ (map.get? key).isSome = true := by
  rw [get?, lookup_isSome_iff]
  simp [keys]

theorem keys_pairwise (map : TextMap α) : map.keys.Pairwise (· < ·) :=
  List.pairwise_map.2 map.ascending

theorem keys_nodup (map : TextMap α) : map.keys.Nodup := by
  rw [List.nodup_iff_pairwise_ne]
  refine map.keys_pairwise.imp ?_
  intro first second hlt heq
  rw [heq] at hlt
  exact String.lt_irrefl _ hlt

theorem length_keys (map : TextMap α) : map.keys.length = map.size := by
  simp [keys, size]

/-- A map is empty when no key has a value. -/
theorem eq_empty_iff {map : TextMap α} : map = empty ↔ ∀ key, map.get? key = none := by
  constructor
  · intro h key
    rw [h, get?_empty]
  · intro h
    apply ext_get?
    intro key
    rw [h key, get?_empty]

theorem isEmpty_iff {map : TextMap α} : map.isEmpty = true ↔ map = empty := by
  constructor
  · intro h
    obtain ⟨entries, ascending⟩ := map
    have hnil : entries = [] := List.isEmpty_iff.1 h
    subst hnil
    rfl
  · intro h
    rw [h]
    rfl

/-- Equally many keys, all of the one map being keys of the other, are the same keys. -/
theorem get?_isSome_of_size_eq {β : Type} {first : TextMap α} {second : TextMap β}
    (hsize : first.size = second.size)
    (hsub : ∀ key, (first.get? key).isSome = true → (second.get? key).isSome = true) (key : String)
    (hkey : (second.get? key).isSome = true) : (first.get? key).isSome = true := by
  have hkeys : first.keys ⊆ second.keys := by
    intro k hk
    rw [mem_keys_iff] at hk ⊢
    exact hsub k hk
  -- Keys without repetition, all of them among no more other ones, are these in another order.
  have hlength : second.keys.length ≤ first.keys.length := by
    rw [length_keys, length_keys]
    exact Nat.le_of_eq hsize.symm
  have hperm : first.keys.Perm second.keys :=
    (first.keys_nodup.subperm hkeys).perm_of_length_le hlength
  rw [← mem_keys_iff, hperm.mem_iff, mem_keys_iff]
  exact hkey

end TopicOperator.TextMap
