import TopicOperator.TextMap.Basic

/-!
# Laws of maps keyed by text

A map is seen through `get?`: what each operation does to it, and that two maps that answer alike
are equal.
-/

namespace TopicOperator.TextMap

variable {α : Type}

theorem lookup_insertEntry (key : String) (value : α) (entries : List (String × α)) (k : String) :
    lookup k (insertEntry key value entries) =
      if k = key then some value else lookup k entries := by
  induction entries with
  | nil => simp [insertEntry, lookup, eq_comm]
  | cons first rest ih =>
      obtain ⟨k', v'⟩ := first
      simp only [insertEntry]
      split
      · simp [lookup, eq_comm]
      · split
        · rename_i heq
          subst heq
          by_cases hk : k = key
          · simp [lookup, hk]
          · simp [lookup, hk, Ne.symm hk]
        · rename_i hne
          by_cases hk : k = key
          · subst hk
            simp [lookup, ih, Ne.symm hne]
          · simp [lookup, ih, hk]

@[simp] theorem get?_insert (map : TextMap α) (key : String) (value : α) (k : String) :
    (map.insert key value).get? k = if k = key then some value else map.get? k :=
  lookup_insertEntry key value map.entries k

theorem lookup_filter_key (key : String) (entries : List (String × α)) (k : String) :
    lookup k (entries.filter (·.1 ≠ key)) = if k = key then none else lookup k entries := by
  induction entries with
  | nil => simp [lookup]
  | cons first rest ih =>
      obtain ⟨k', v'⟩ := first
      by_cases hkey : k' = key
      · subst hkey
        by_cases hk : k = k' <;> simp_all [lookup, eq_comm]
      · by_cases hk : k = key
        · subst hk
          simp_all [lookup]
        · simp_all [lookup]

@[simp] theorem get?_erase (map : TextMap α) (key k : String) :
    (map.erase key).get? k = if k = key then none else map.get? k :=
  lookup_filter_key key map.entries k

@[simp] theorem get?_empty (k : String) : (empty : TextMap α).get? k = none := rfl

theorem lookup_eq_none_iff {entries : List (String × α)} {k : String} :
    lookup k entries = none ↔ ∀ e ∈ entries, e.1 ≠ k := by
  induction entries with
  | nil => simp [lookup]
  | cons first rest ih =>
      obtain ⟨k', v'⟩ := first
      by_cases hk : k' = k <;> simp [lookup, hk, ih]

theorem lookup_eq_some_iff {entries : List (String × α)} (h : Ascending entries) {k : String}
    {v : α} : lookup k entries = some v ↔ (k, v) ∈ entries := by
  induction entries with
  | nil => simp [lookup]
  | cons first rest ih =>
      obtain ⟨k', v'⟩ := first
      have hrest := List.pairwise_cons.1 h
      by_cases hk : k' = k
      · subst hk
        simp only [lookup, if_true, Option.some.injEq, List.mem_cons, Prod.mk.injEq, true_and]
        constructor
        · exact fun hv => .inl hv.symm
        · rintro (hv | hmem)
          · exact hv.symm
          · exact absurd (hrest.1 _ hmem) (String.lt_irrefl k')
      · simp [lookup, hk, ih hrest.2, Ne.symm hk]

theorem get?_eq_some_iff (map : TextMap α) {k : String} {v : α} :
    map.get? k = some v ↔ (k, v) ∈ map.entries :=
  lookup_eq_some_iff map.ascending

theorem entries_ext {first second : List (String × α)} (hf : Ascending first)
    (hs : Ascending second) (h : ∀ k, lookup k first = lookup k second) : first = second := by
  induction first generalizing second with
  | nil =>
      cases second with
      | nil => rfl
      | cons e rest => simpa [lookup] using h e.1
  | cons e rest ih =>
      obtain ⟨k, v⟩ := e
      cases second with
      | nil => simpa [lookup] using h k
      | cons e' rest' =>
          obtain ⟨k', v'⟩ := e'
          have hf' := List.pairwise_cons.1 hf
          have hs' := List.pairwise_cons.1 hs
          have hkey : k = k' := by
            rcases Decidable.em (k < k') with hlt | hge
            · have hnone : lookup k ((k', v') :: rest') = none := by
                rw [lookup_eq_none_iff]
                intro e he
                rcases List.mem_cons.1 he with he | he
                · subst he
                  exact fun heq => String.lt_irrefl k (heq ▸ hlt)
                · exact fun heq =>
                    String.lt_irrefl k (String.lt_trans hlt (heq ▸ hs'.1 e he))
              have := h k
              rw [hnone] at this
              simp [lookup] at this
            · rcases Decidable.em (k' < k) with hlt | hge'
              · have hnone : lookup k' ((k, v) :: rest) = none := by
                  rw [lookup_eq_none_iff]
                  intro e he
                  rcases List.mem_cons.1 he with he | he
                  · subst he
                    exact fun heq => String.lt_irrefl k' (heq ▸ hlt)
                  · exact fun heq =>
                      String.lt_irrefl k' (String.lt_trans hlt (heq ▸ hf'.1 e he))
                have := h k'
                rw [hnone] at this
                simp [lookup] at this
              · exact String.le_antisymm (String.not_lt.1 hge') (String.not_lt.1 hge)
          subst hkey
          have hval : v = v' := by
            have := h k
            simpa [lookup] using this
          subst hval
          congr 1
          refine ih hf'.2 hs'.2 fun j => ?_
          by_cases hj : k = j
          · subst hj
            have h1 : lookup k rest = none := by
              rw [lookup_eq_none_iff]
              exact fun e he heq => String.lt_irrefl k (heq ▸ hf'.1 e he)
            have h2 : lookup k rest' = none := by
              rw [lookup_eq_none_iff]
              exact fun e he heq => String.lt_irrefl k (heq ▸ hs'.1 e he)
            rw [h1, h2]
          · have := h j
            simpa [lookup, hj] using this

/-- Two maps that give every key the same value are equal. -/
theorem ext_get? {first second : TextMap α} (h : ∀ k, first.get? k = second.get? k) :
    first = second := by
  obtain ⟨f, hf⟩ := first
  obtain ⟨s, hs⟩ := second
  congr 1
  exact entries_ext hf hs h

theorem get?_insertAll (entries : List (String × α)) (map : TextMap α) (k : String) :
    (map.insertAll entries).get? k = ((lookup k entries.reverse).or (map.get? k)) := by
  induction entries generalizing map with
  | nil => simp [insertAll, lookup]
  | cons first rest ih =>
      obtain ⟨k', v'⟩ := first
      have hstep : map.insertAll ((k', v') :: rest) = (map.insert k' v').insertAll rest := rfl
      have happ : ∀ (xs : List (String × α)),
          lookup k (xs ++ [(k', v')]) = (lookup k xs).or (if k' = k then some v' else none) := by
        intro xs
        induction xs with
        | nil => simp [lookup]
        | cons e rest ih =>
            obtain ⟨ke, ve⟩ := e
            by_cases hk : ke = k <;> simp [lookup, hk, ih]
      rw [hstep, ih, List.reverse_cons, happ, get?_insert]
      by_cases hk : k = k'
      · subst hk
        simp
      · simp [hk, Ne.symm hk]

/-- In the map of a list the last value of a key counts. -/
theorem get?_ofList (entries : List (String × α)) (k : String) :
    (ofList entries).get? k = lookup k entries.reverse := by
  simp [ofList, get?_insertAll]

theorem insertEntry_append_last {key : String} {value : α} {entries : List (String × α)}
    (h : ∀ e ∈ entries, e.1 < key) : insertEntry key value entries = entries ++ [(key, value)] := by
  induction entries with
  | nil => rfl
  | cons first rest ih =>
      obtain ⟨k, v⟩ := first
      have hk : k < key := h (k, v) List.mem_cons_self
      have h1 : ¬ key < k := String.lt_asymm hk
      have h2 : key ≠ k := fun heq => String.lt_irrefl k (heq ▸ hk)
      simp only [insertEntry, h1, h2, if_false, List.cons_append]
      rw [ih fun e he => h e (List.mem_cons_of_mem _ he)]

/-- Building a map from its own entries gives the map back. -/
theorem ofList_entries (map : TextMap α) : ofList map.entries = map :=
  ext_get? fun k => by
    rw [get?_ofList]
    show lookup k map.entries.reverse = lookup k map.entries
    cases h : lookup k map.entries with
    | none =>
        rw [lookup_eq_none_iff] at h ⊢
        exact fun e he => h e (List.mem_reverse.1 he)
    | some v =>
        have hmem := (lookup_eq_some_iff map.ascending).1 h
        cases h' : lookup k map.entries.reverse with
        | none =>
            rw [lookup_eq_none_iff] at h'
            exact absurd rfl (h' (k, v) (List.mem_reverse.2 hmem))
        | some w =>
            have hw : (k, w) ∈ map.entries := by
              have : ∀ (xs : List (String × α)), lookup k xs = some w → (k, w) ∈ xs := by
                intro xs
                induction xs with
                | nil => simp [lookup]
                | cons e rest ih =>
                    obtain ⟨ke, ve⟩ := e
                    by_cases hk : ke = k
                    · subst hk
                      simp only [lookup, if_true, Option.some.injEq]
                      rintro rfl
                      exact List.mem_cons_self
                    · simp only [lookup, hk, if_false]
                      exact fun hx => List.mem_cons_of_mem _ (ih hx)
              exact List.mem_reverse.1 (this _ h')
            have := (lookup_eq_some_iff map.ascending).2 hw
            rw [h] at this
            exact this.symm

end TopicOperator.TextMap
