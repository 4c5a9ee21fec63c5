import TopicOperator.Json.MergePatch

/-!
# Members of merged objects

What a merge patch makes of the members of an object: a member that is set to null goes away, any
other change of a member replaces it by the merged value, and each change leaves the members of other
names alone.  Where no object names a member twice, this stays so.
-/

namespace TopicOperator.Json

variable {members : List (String × Json)} {name : String} {value : Json}

theorem object_ne_null (members : List (String × Json)) : object members ≠ null := nofun

/-- The names of members, in order. -/
def names (members : List (String × Json)) : List String := members.map (·.1)

theorem names_cons (name : String) (value : Json) (rest : List (String × Json)) :
    names ((name, value) :: rest) = name :: names rest := rfl

theorem find_isSome_iff : (find name members).isSome = true ↔ name ∈ names members := by
  induction members with
  | nil => simp [find, names]
  | cons m rest ih =>
      obtain ⟨n, v⟩ := m
      rw [find]
      by_cases h : n = name
      · simp [h, names]
      · rw [if_neg h, ih]
        simp [names, Ne.symm h]

theorem find_eq_none_iff : find name members = none ↔ name ∉ names members := by
  rw [← find_isSome_iff, Bool.not_eq_true, Option.isSome_eq_false_iff, Option.isNone_iff_eq_none]

/-- Where no name comes twice, a member is found under its name. -/
theorem find_of_mem (hnames : (names members).Nodup) (h : (name, value) ∈ members) :
    find name members = some value := by
  induction members with
  | nil => cases h
  | cons m rest ih =>
      obtain ⟨hfresh, hrest⟩ := List.nodup_cons.1 hnames
      rcases List.mem_cons.1 h with rfl | hmem
      · exact if_pos rfl
      · have hother : m.1 ≠ name := by
          rintro rfl
          exact hfresh (List.mem_map.2 ⟨_, hmem, rfl⟩)
        rw [find, if_neg hother]
        exact ih hrest hmem

theorem without_cons_self (name : String) (value : Json) (rest : List (String × Json)) :
    without name ((name, value) :: rest) = without name rest := by
  simp [without]

theorem without_cons_of_ne {other : String} (h : other ≠ name) (value : Json)
    (rest : List (String × Json)) :
    without name ((other, value) :: rest) = (other, value) :: without name rest := by
  simp [without, h]

theorem mem_names_without {other : String} :
    other ∈ names (without name members) ↔ other ≠ name ∧ other ∈ names members := by
  rw [← find_isSome_iff, find_without, ← find_isSome_iff]
  by_cases h : other = name <;> simp [h]

theorem mem_names_put {other : String} :
    other ∈ names (put name value members) ↔ other = name ∨ other ∈ names members := by
  rw [← find_isSome_iff, find_put, ← find_isSome_iff]
  by_cases h : other = name <;> simp [h]

theorem nodup_names_without (h : (names members).Nodup) :
    (names (without name members)).Nodup :=
  h.sublist (List.filter_sublist.map _)

theorem nodup_names_put (h : (names members).Nodup) : (names (put name value members)).Nodup := by
  have hwithout : (names (without name members)).Nodup := nodup_names_without h
  have hfresh : name ∉ names (without name members) := fun hmem =>
    (mem_names_without.1 hmem).1 rfl
  have hnames : names (put name value members) = names (without name members) ++ [name] := by
    simp [names, put]
  rw [hnames, List.nodup_append]
  refine ⟨hwithout, by simp, ?_⟩
  intro other hother last hlast heq
  rw [List.mem_singleton.1 hlast] at heq
  exact hfresh (heq ▸ hother)

/-- The change that a patch makes to one member. -/
def changeMember (members : List (String × Json)) (name : String) (change : Json) :
    List (String × Json) :=
  mergeMembers members [(name, change)]

@[simp] theorem mergeMembers_nil (members : List (String × Json)) :
    mergeMembers members [] = members := rfl

/-- The changes of a patch are made one after the other. -/
theorem mergeMembers_cons (members : List (String × Json)) (name : String) (change : Json)
    (rest : List (String × Json)) :
    mergeMembers members ((name, change) :: rest) =
      mergeMembers (changeMember members name change) rest := by
  cases change with
  | null | bool | number | text | list | object => rfl

theorem mergeMembers_append (members first second : List (String × Json)) :
    mergeMembers members (first ++ second) = mergeMembers (mergeMembers members first) second := by
  induction first generalizing members with
  | nil => rw [List.nil_append, mergeMembers_nil]
  | cons change rest ih =>
      obtain ⟨n, c⟩ := change
      rw [List.cons_append, mergeMembers_cons, ih, ← mergeMembers_cons]

theorem changeMember_null (members : List (String × Json)) (name : String) :
    changeMember members name .null = without name members := rfl

theorem changeMember_of_ne_null {change : Json} (h : change ≠ .null)
    (members : List (String × Json)) (name : String) :
    changeMember members name change =
      put name (mergePatch ((find name members).getD .null) change) members := by
  cases change with
  | null => exact absurd rfl h
  | bool | number | text | list | object => rfl

/-- The member of a name after a patch of a single member. -/
theorem get_mergePatch_single {change : Json} (h : change ≠ .null) (target : Json)
    (name other : String) :
    (mergePatch target (.object [(name, change)])).get other =
      if other = name then mergePatch (target.get name) change else target.get other := by
  show (find other (changeMember target.members name change)).getD .null = _
  rw [changeMember_of_ne_null h, find_put]
  split <;> rfl

/-- A patch of a single member leaves the others, or their absence, as they are. -/
theorem get?_mergePatch_single {change : Json} (h : change ≠ .null) (target : Json)
    {other : String} (hother : other ≠ name) :
    (mergePatch target (.object [(name, change)])).get? other = target.get? other := by
  show find other (changeMember target.members name change) = _
  rw [changeMember_of_ne_null h, find_put, if_neg hother]
  rfl

theorem nodup_names_changeMember {change : Json} (h : (names members).Nodup) :
    (names (changeMember members name change)).Nodup := by
  by_cases hnull : change = .null
  · rw [hnull, changeMember_null]
    exact nodup_names_without h
  · rw [changeMember_of_ne_null hnull]
    exact nodup_names_put h

theorem nodup_names_mergeMembers (h : (names members).Nodup) (changes : List (String × Json)) :
    (names (mergeMembers members changes)).Nodup := by
  induction changes generalizing members with
  | nil =>
      rw [mergeMembers_nil]
      exact h
  | cons change rest ih =>
      obtain ⟨n, c⟩ := change
      rw [mergeMembers_cons]
      exact ih (nodup_names_changeMember h)

/-- A patch that removes nothing keeps all names and adds its own. -/
theorem mem_names_mergeMembers {changes : List (String × Json)} (h : ∀ c ∈ changes, c.2 ≠ .null)
    {other : String} :
    other ∈ names (mergeMembers members changes) ↔
      other ∈ names members ∨ other ∈ names changes := by
  induction changes generalizing members with
  | nil => simp [names]
  | cons change rest ih =>
      obtain ⟨n, c⟩ := change
      have hne : c ≠ .null := h (n, c) List.mem_cons_self
      rw [mergeMembers_cons, ih fun d hd => h d (List.mem_cons_of_mem _ hd),
        changeMember_of_ne_null hne, mem_names_put, names_cons, List.mem_cons, ← or_assoc,
        or_comm (a := other = n)]

/-- The members of which none has one of some names. -/
def withoutAll (chosen : List String) (members : List (String × Json)) : List (String × Json) :=
  members.filter fun m => m.1 ∉ chosen

/-- What a patch sets: the members that it does not set to null, each one merged into the member of its
name. -/
def merged (members : List (String × Json)) : List (String × Json) → List (String × Json)
  | [] => []
  | (_, .null) :: rest => merged members rest
  | (name, change) :: rest =>
      (name, mergePatch ((find name members).getD .null) change) :: merged members rest

theorem merged_cons_of_ne_null {change : Json} (h : change ≠ .null)
    (members : List (String × Json)) (name : String) (rest : List (String × Json)) :
    merged members ((name, change) :: rest) =
      (name, mergePatch ((find name members).getD .null) change) :: merged members rest := by
  cases change with
  | null => exact absurd rfl h
  | bool | number | text | list | object => rfl

/-- What a patch sets depends on the members of its own names alone. -/
theorem merged_congr {others : List (String × Json)} :
    ∀ {changes : List (String × Json)},
      (∀ n ∈ names changes, find n members = find n others) →
        merged members changes = merged others changes
  | [], _ => rfl
  | (n, c) :: rest, h => by
      have hrest : merged members rest = merged others rest :=
        merged_congr fun m hm => h m (List.mem_cons_of_mem _ hm)
      by_cases hnull : c = .null
      · rw [hnull]
        exact hrest
      · rw [merged_cons_of_ne_null hnull, merged_cons_of_ne_null hnull, hrest,
          h n List.mem_cons_self]

theorem withoutAll_cons (name : String) (chosen : List String) (members : List (String × Json)) :
    withoutAll (name :: chosen) members = withoutAll chosen (without name members) := by
  simp only [withoutAll, without, List.filter_filter]
  congr 1
  funext m
  simp [Bool.and_comm]

/-- A patch that names no member twice takes the members of its names away and puts what it sets behind
the others. -/
theorem mergeMembers_eq {changes : List (String × Json)} (hnames : (names changes).Nodup) :
    mergeMembers members changes =
      withoutAll (names changes) members ++ merged members changes := by
  induction changes generalizing members with
  | nil =>
      have hall : withoutAll [] members = members := List.filter_eq_self.2 fun _ _ => rfl
      rw [mergeMembers_nil, names, List.map_nil, hall, merged, List.append_nil]
  | cons change rest ih =>
      obtain ⟨n, c⟩ := change
      obtain ⟨hfresh, hrest⟩ : n ∉ names rest ∧ (names rest).Nodup := List.nodup_cons.1 hnames
      have hother : ∀ m ∈ names rest, m ≠ n := fun m hm heq => hfresh (heq ▸ hm)
      rw [mergeMembers_cons, ih hrest, names_cons, withoutAll_cons]
      by_cases hnull : c = .null
      · -- The other changes find the members of their names where they were.
        have hsame : merged (without n members) rest = merged members rest :=
          merged_congr fun m hm => by rw [find_without, if_neg (hother m hm)]
        rw [hnull, changeMember_null, hsame]
        rfl
      · have hsame (value : Json) : merged (put n value members) rest = merged members rest :=
          merged_congr fun m hm => by rw [find_put, if_neg (hother m hm)]
        have hput (value : Json) : withoutAll (names rest) (put n value members) =
            withoutAll (names rest) (without n members) ++ [(n, value)] := by
          have hkept : withoutAll (names rest) [(n, value)] = [(n, value)] := by
            simp [withoutAll, hfresh]
          rw [put, withoutAll, List.filter_append]
          exact congrArg _ hkept
        rw [changeMember_of_ne_null hnull, hsame, hput, merged_cons_of_ne_null hnull,
          List.append_assoc, List.singleton_append]

theorem names_append (first second : List (String × Json)) :
    names (first ++ second) = names first ++ names second :=
  List.map_append

theorem names_optional_sublist {α : Type} (name : String) (encode : α → Json) (a : Option α) :
    (names (optional name encode a)).Sublist [name] := by
  cases a with
  | none => exact List.nil_sublist _
  | some a => exact List.Sublist.refl _

/-- A value or null in a patch leaves the value, if there is one, where the value is none to be merged. -/
theorem merged_nullable {α : Type} {encode : α → Json}
    (hencode : ∀ a target, encode a ≠ .null ∧ mergePatch target (encode a) = encode a)
    (members : List (String × Json)) (name : String) (a : Option α) (rest : List (String × Json)) :
    merged members ((name, nullable encode a) :: rest) =
      optional name encode a ++ merged members rest := by
  cases a with
  | none => rfl
  | some a =>
      obtain ⟨hne, hwhole⟩ := hencode a ((find name members).getD .null)
      rw [nullable, merged_cons_of_ne_null hne, hwhole]
      rfl

theorem ne_null_of_mem_optional {α : Type} {encode : α → Json} (h : ∀ a, encode a ≠ .null)
    {a : Option α} {m : String × Json} (hm : m ∈ optional name encode a) : m.2 ≠ .null := by
  cases a with
  | none => cases hm
  | some a =>
      rw [List.mem_singleton.1 hm]
      exact h a

mutual

/-- No object in a value names a member twice. -/
def Distinct : Json → Prop
  | .null | .bool _ | .number _ | .text _ => True
  | .list items => ItemsDistinct items
  | .object members => (names members).Nodup ∧ MembersDistinct members

/-- No object in a list of values names a member twice. -/
def ItemsDistinct : List Json → Prop
  | [] => True
  | item :: rest => Distinct item ∧ ItemsDistinct rest

/-- No object in the values of members names a member twice. -/
def MembersDistinct : List (String × Json) → Prop
  | [] => True
  | (_, value) :: rest => Distinct value ∧ MembersDistinct rest

end

theorem distinct_text (s : String) : (Json.text s).Distinct := True.intro

theorem distinct_bool (b : Bool) : (Json.bool b).Distinct := True.intro

theorem distinct_integer (n : Int) : (integer n).Distinct := True.intro

theorem membersDistinct_iff : MembersDistinct members ↔ ∀ m ∈ members, m.2.Distinct := by
  induction members with
  | nil => simp [MembersDistinct]
  | cons m rest ih =>
      obtain ⟨n, v⟩ := m
      simp [MembersDistinct, ih]

theorem membersDistinct_append {first second : List (String × Json)} :
    MembersDistinct (first ++ second) ↔ MembersDistinct first ∧ MembersDistinct second := by
  simp only [membersDistinct_iff, List.mem_append, or_imp, forall_and]

theorem membersDistinct_optional {α : Type} {encode : α → Json} (h : ∀ a, (encode a).Distinct)
    (name : String) (a : Option α) : MembersDistinct (optional name encode a) := by
  cases a with
  | none => exact True.intro
  | some a => exact ⟨h a, True.intro⟩

theorem distinct_nullable {α : Type} {encode : α → Json} (h : ∀ a, (encode a).Distinct)
    (a : Option α) : (nullable encode a).Distinct := by
  cases a with
  | none => exact True.intro
  | some a => exact h a

theorem itemsDistinct_map {α : Type} {encode : α → Json} (h : ∀ a, (encode a).Distinct)
    (items : List α) : ItemsDistinct (items.map encode) := by
  induction items with
  | nil => exact True.intro
  | cons a rest ih => exact ⟨h a, ih⟩

theorem Distinct.find (h : MembersDistinct members) (hfind : find name members = some value) :
    value.Distinct := by
  induction members with
  | nil => cases hfind
  | cons m rest ih =>
      obtain ⟨n, v⟩ := m
      rw [Json.find] at hfind
      split at hfind
      · obtain rfl := Option.some.inj hfind
        exact h.1
      · exact ih h.2 hfind

theorem Distinct.getD_find (h : MembersDistinct members) (name : String) :
    ((Json.find name members).getD .null).Distinct := by
  cases hfind : Json.find name members with
  | none => exact True.intro
  | some value => exact Distinct.find h hfind

/-- The members of a value name no member twice. -/
theorem Distinct.ofMembers {value : Json} (h : value.Distinct) :
    (names value.members).Nodup ∧ MembersDistinct value.members := by
  cases value with
  | object members => exact h
  | null | bool | number | text | list => exact ⟨List.nodup_nil, True.intro⟩

theorem membersDistinct_without (h : MembersDistinct members) :
    MembersDistinct (without name members) := by
  rw [membersDistinct_iff] at h ⊢
  exact fun m hm => h m (List.mem_filter.1 hm).1

theorem membersDistinct_put (h : MembersDistinct members) (hvalue : value.Distinct) :
    MembersDistinct (put name value members) := by
  have hwithout : MembersDistinct (without name members) := membersDistinct_without h
  rw [membersDistinct_iff] at hwithout ⊢
  intro m hm
  rcases List.mem_append.1 hm with hold | hnew
  · exact hwithout m hold
  · rw [List.mem_singleton.1 hnew]
    exact hvalue

mutual

/-- A patch that names no member twice makes no object name one twice. -/
theorem distinct_mergePatch {target : Json} (htarget : target.Distinct) :
    ∀ {change : Json}, change.Distinct → (mergePatch target change).Distinct
  | .null, _ | .bool _, _ | .number _, _ | .text _, _ => by
      rw [mergePatch]
      exact True.intro
  | .list items, h => by
      rw [mergePatch]
      exact h
  | .object changes, h => by
      rw [mergePatch]
      obtain ⟨hnames, hmembers⟩ := htarget.ofMembers
      exact ⟨nodup_names_mergeMembers hnames changes, membersDistinct_mergeMembers hmembers h.2⟩

theorem membersDistinct_mergeMembers {members : List (String × Json)}
    (hmembers : MembersDistinct members) :
    ∀ {changes : List (String × Json)}, MembersDistinct changes →
      MembersDistinct (mergeMembers members changes)
  | [], _ => by
      rw [mergeMembers_nil]
      exact hmembers
  | (name, change) :: rest, h => by
      rw [mergeMembers_cons]
      apply membersDistinct_mergeMembers _ h.2
      by_cases hnull : change = .null
      · rw [hnull, changeMember_null]
        exact membersDistinct_without hmembers
      · rw [changeMember_of_ne_null hnull]
        exact membersDistinct_put hmembers
          (distinct_mergePatch (Distinct.getD_find hmembers name) h.1)

end

end TopicOperator.Json
