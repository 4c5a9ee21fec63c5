/-!
# Maps keyed by text

A finite map whose keys are texts, kept as its entries in strictly ascending order of the keys.
The order is part of the type, so a map has exactly one representation and walking it visits the
keys in order.
-/

namespace TopicOperator

/-- Entries in strictly ascending order of their keys. -/
abbrev Ascending {α : Type} (entries : List (String × α)) : Prop :=
  entries.Pairwise fun first second => first.1 < second.1

/-- A finite map keyed by texts. -/
structure TextMap (α : Type) where
  entries : List (String × α)
  ascending : Ascending entries
deriving DecidableEq

namespace TextMap

variable {α β : Type}

/-- The map without entries. -/
def empty : TextMap α := ⟨[], .nil⟩

instance : EmptyCollection (TextMap α) := ⟨empty⟩

instance : Inhabited (TextMap α) := ⟨empty⟩

/-- The value of the first entry with the given key. -/
def lookup (key : String) : List (String × α) → Option α
  | [] => none
  | (k, v) :: rest => if k = key then some v else lookup key rest

/-- The entries with the value of one key replaced or added in its place. -/
def insertEntry (key : String) (value : α) : List (String × α) → List (String × α)
  | [] => [(key, value)]
  | (k, v) :: rest =>
      if key < k then
        (key, value) :: (k, v) :: rest
      else if key = k then
        (key, value) :: rest
      else
        (k, v) :: insertEntry key value rest

theorem mem_insertEntry {key : String} {value : α} {entries : List (String × α)}
    {e : String × α} (h : e ∈ insertEntry key value entries) :
    e = (key, value) ∨ e ∈ entries := by
  induction entries with
  | nil => simpa [insertEntry] using h
  | cons first rest ih =>
      obtain ⟨k, v⟩ := first
      simp only [insertEntry] at h
      split at h
      · simpa using h
      · split at h
        · rcases List.mem_cons.1 h with h | h
          · exact .inl h
          · exact .inr (List.mem_cons_of_mem _ h)
        · rcases List.mem_cons.1 h with h | h
          · exact .inr (h ▸ List.mem_cons_self)
          · exact (ih h).imp id (List.mem_cons_of_mem _)

theorem ascending_insertEntry {key : String} {value : α} {entries : List (String × α)}
    (h : Ascending entries) : Ascending (insertEntry key value entries) := by
  induction entries with
  | nil => simp [insertEntry, Ascending]
  | cons first rest ih =>
      obtain ⟨k, v⟩ := first
      have hrest := (List.pairwise_cons.1 h)
      simp only [insertEntry]
      split
      · rename_i hlt
        refine List.pairwise_cons.2 ⟨fun e he => ?_, h⟩
        rcases List.mem_cons.1 he with he | he
        · exact he ▸ hlt
        · exact String.lt_trans hlt (hrest.1 e he)
      · split
        · rename_i heq
          exact List.pairwise_cons.2 ⟨fun e he => heq ▸ hrest.1 e he, hrest.2⟩
        · rename_i hnlt hne
          refine List.pairwise_cons.2 ⟨fun e he => ?_, ih hrest.2⟩
          rcases mem_insertEntry he with he | he
          · subst he
            have hle : k ≤ key := String.not_lt.1 hnlt
            rcases Decidable.em (k < key) with hlt | hge
            · exact hlt
            · exact absurd (String.le_antisymm (String.not_lt.1 hge) hle) hne
          · exact hrest.1 e he

/-- The value of a key. -/
def get? (map : TextMap α) (key : String) : Option α :=
  lookup key map.entries

/-- The map with the value of one key replaced or added. -/
def insert (map : TextMap α) (key : String) (value : α) : TextMap α :=
  ⟨insertEntry key value map.entries, ascending_insertEntry map.ascending⟩

/-- The map without one key. -/
def erase (map : TextMap α) (key : String) : TextMap α :=
  ⟨map.entries.filter (·.1 ≠ key), map.ascending.sublist List.filter_sublist⟩

/-- The entries that satisfy a condition. -/
def filter (map : TextMap α) (keep : String → α → Bool) : TextMap α :=
  ⟨map.entries.filter fun (k, v) => keep k v, map.ascending.sublist List.filter_sublist⟩

/-- The entries of a map in ascending order of the keys. -/
def toList (map : TextMap α) : List (String × α) := map.entries

/-- The keys in ascending order. -/
def keys (map : TextMap α) : List String := map.entries.map (·.1)

/-- The number of keys. -/
def size (map : TextMap α) : Nat := map.entries.length

/-- Whether there is no key. -/
def isEmpty (map : TextMap α) : Bool := map.entries.isEmpty

/-- Whether a key has a value. -/
def contains (map : TextMap α) (key : String) : Bool := (map.get? key).isSome

/-- The map with the entries of a list added one after the other, so that the last value of a key
counts. -/
def insertAll (map : TextMap α) (entries : List (String × α)) : TextMap α :=
  entries.foldl (fun m (k, v) => m.insert k v) map

/-- The map of a list of entries, where the last value of a key counts. -/
def ofList (entries : List (String × α)) : TextMap α :=
  insertAll empty entries

end TextMap

end TopicOperator
