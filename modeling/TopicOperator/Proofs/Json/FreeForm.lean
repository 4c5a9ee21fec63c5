import TopicOperator.Proofs.Json.Scanned
import TopicOperator.Proofs.TextMap.Keys

/-!
# Values of any form

What can be read where any value may stand, and what is read back of it.  The members of an object come
in the order of their names, integers have 64 bits, and there is room for some depth only.  A
floating-point number need not be the one that its own text is read as.
-/

namespace TopicOperator.Json

open Number Draft

mutual

/-- A value that may be read where any value may stand, with room for so many lists and objects within
each other: no object has its members out of the order of their names, or one twice. -/
def IsTidy : Nat → Json → Prop
  | _, .null | _, .bool _ | _, .text _ | _, .number (.real _) => True
  | _, .number (.integer n) => int64.least ≤ n ∧ n ≤ word64.greatest
  | room, .list items => room ≠ 0 ∧ ItemsTidy (room - 1) items
  | room, .object members => room ≠ 0 ∧ Ascending members ∧ MembersTidy (room - 1) members

/-- Tidy items of a list. -/
def ItemsTidy : Nat → List Json → Prop
  | _, [] => True
  | room, item :: rest => IsTidy room item ∧ ItemsTidy room rest

/-- Tidy values of members. -/
def MembersTidy : Nat → List (String × Json) → Prop
  | _, [] => True
  | room, (_, value) :: rest => IsTidy room value ∧ MembersTidy room rest

end

/-- A floating-point number that is read from its own text. -/
def Lasts (x : Binary64) : Prop := (Literal.ofReal x).value? = some (.real x)

namespace Literal

theorem collect_zero {digits : List Nat} (h : ∀ d ∈ digits, d = 0) : collect 0 digits = (0, 0) := by
  induction digits with
  | nil => rfl
  | cons d rest ih =>
      obtain ⟨rfl, hrest⟩ := List.forall_mem_cons.1 h
      exact ih hrest

theorem round?_zero (negative : Bool) (den : Nat) :
    Binary64.round? negative 0 den = some (.zero negative) := rfl

theorem scaleDown_zero (steps power : Nat) {x y : Binary64} (hx : x.mantissa = 0)
    (h : scaleDown steps x power = some y) : y.mantissa = 0 := by
  cases steps with
  | zero =>
      simp only [scaleDown, Binary64.div?, Binary64.magnitude, hx, Nat.zero_mul, round?_zero] at h
      exact Option.some.inj h ▸ rfl
  | succ steps =>
      simp only [scaleDown, Binary64.isZero, hx] at h
      exact Option.some.inj h ▸ hx

/-- No power of ten makes more of zero. -/
theorem scale_zero {power : Int} {x : Binary64} (h : scale 0 power = some x) : x.mantissa = 0 := by
  change (if 0 ≤ power then _ else _) = some x at h
  split at h
  · split at h
    · simp only [Binary64.mul?, Binary64.magnitude, Binary64.zero, Nat.zero_mul, round?_zero] at h
      exact Option.some.inj h ▸ rfl
    · exact Option.some.inj h ▸ rfl
  · exact scaleDown_zero _ _ rfl h

/-- Zeros spell no floating-point number but zero. -/
theorem mantissa_of_zeros {l : Literal} (hwhole : ∀ d ∈ l.whole, d = 0)
    (hfraction : ∀ d ∈ l.fraction, d = 0) {x : Binary64} (h : l.value? = some (.real x)) :
    x.mantissa = 0 := by
  have hscaled {power : Int} (h : (scale 0 power).map l.withSign = some (.real x)) :
      x.mantissa = 0 := by
    obtain ⟨y, hy, hx⟩ := Option.map_eq_some_iff.1 h
    obtain rfl := JsonNumber.real.inj hx
    have hzero := scale_zero hy
    split <;> exact hzero
  unfold value? at h
  simp only [collect_zero hwhole, collect_zero hfraction] at h
  split at h
  · split at h
    · cases h
    · rw [if_neg (by simp)] at h
      exact hscaled h
  · exact hscaled h

end Literal

/-- A floating-point number that lasts has digits to be written with. -/
theorem Lasts.isSpelled {x : Binary64} (h : Lasts x) : Scan.IsSpelled x := by
  by_cases hzero : x.isZero = true
  · exact .inl hzero
  refine .inr fun hdigits => hzero ?_
  rcases hshort : x.shortest with ⟨digits, point⟩
  rw [hshort] at hdigits
  dsimp only at hdigits
  subst hdigits
  -- Without digits the literal has zeros only.
  have hzeros (n : Nat) : ∀ d ∈ Literal.digitsOf (List.replicate n '0'), d = 0 := by
    intro d hd
    obtain ⟨c, hc, hvalue⟩ := List.mem_filterMap.1 hd
    rw [List.eq_of_mem_replicate hc] at hvalue
    exact (Option.some.inj hvalue).symm
  have hliteral : (∀ d ∈ (Literal.ofReal x).whole, d = 0) ∧
      ∀ d ∈ (Literal.ofReal x).fraction, d = 0 := by
    simp only [Literal.ofReal, if_neg hzero, hshort]
    split
    · unfold Literal.positional
      dsimp only
      split
      · simpa using hzeros _
      · simpa using hzeros _
    · simp [Literal.exponential, Literal.digitsOf]
  simpa [Binary64.isZero] using Literal.mantissa_of_zeros hliteral.1 hliteral.2 h

/-- Members put in the order of their names, the last one of a name in the place of the others. -/
def sortMembers (members : List (String × Json)) : List (String × Json) :=
  members.foldl (fun found (name, value) => TextMap.insertEntry name value found) []

theorem sortMembers_eq (members : List (String × Json)) :
    sortMembers members = (TextMap.ofList members).entries := by
  have hfold : ∀ map : TextMap Json, (map.insertAll members).entries =
      members.foldl (fun found (name, value) => TextMap.insertEntry name value found)
        map.entries := by
    induction members with
    | nil => exact fun _ => rfl
    | cons m rest ih => exact fun _ => ih _
  exact (hfold .empty).symm

/-- Members in the order of their names stay as they are. -/
theorem sortMembers_of_ascending {members : List (String × Json)} (h : Ascending members) :
    sortMembers members = members := by
  rw [sortMembers_eq]
  exact congrArg TextMap.entries (TextMap.ofList_entries ⟨members, h⟩)

theorem ascending_sortMembers (members : List (String × Json)) : Ascending (sortMembers members) := by
  rw [sortMembers_eq]
  exact (TextMap.ofList members).ascending

theorem mem_of_mem_sortMembers {members : List (String × Json)} {m : String × Json}
    (h : m ∈ sortMembers members) : m ∈ members := by
  obtain ⟨name, value⟩ := m
  rw [sortMembers_eq, ← TextMap.get?_eq_some_iff, TextMap.get?_ofList] at h
  exact List.mem_reverse.1 (TextMap.mem_of_lookup h)

mutual

/-- A tidy value is read as it was written if its floating-point numbers last. -/
theorem readAny_ofJson : ∀ (room : Nat) (value : Json), value.IsTidy room →
    (∀ x ∈ value.reals, Lasts x) → readAny room (ofJson value) = .ok value
  | _, .null, _, _ | _, .bool _, _, _ | _, .text _, _, _ => rfl
  | _, .number (.integer n), htidy, _ => by
      simp only [ofJson, readAny, readNumber, Literal.value?_ofInteger htidy.1 htidy.2]
      rfl
  | _, .number (.real x), _, hreals => by
      have hvalue : (Literal.ofReal x).value? = some (.real x) := hreals x (List.mem_singleton_self x)
      simp only [ofJson, readAny, readNumber, hvalue]
      rfl
  | room, .list items, htidy, hreals => by
      simp only [ofJson, readAny, if_neg htidy.1,
        readAnyItems_ofItems (room - 1) items htidy.2 hreals]
      rfl
  | room, .object members, htidy, hreals => by
      simp only [ofJson, readAny, if_neg htidy.1,
        readAnyMembers_ofMembers (room - 1) members htidy.2.2 hreals]
      exact congrArg (fun members => Except.ok (Json.object members)) (sortMembers_of_ascending htidy.2.1)

theorem readAnyItems_ofItems : ∀ (room : Nat) (items : List Json), ItemsTidy room items →
    (∀ x ∈ itemReals items, Lasts x) → readAnyItems room (ofItems items) = .ok items
  | _, [], _, _ => rfl
  | room, item :: rest, htidy, hreals => by
      obtain ⟨hitem, hrest⟩ := List.forall_mem_append.1 hreals
      rw [ofItems, readAnyItems, readAny_ofJson room item htidy.1 hitem,
        readAnyItems_ofItems room rest htidy.2 hrest]
      rfl

theorem readAnyMembers_ofMembers : ∀ (room : Nat) (members : List (String × Json)),
    MembersTidy room members → (∀ x ∈ memberReals members, Lasts x) →
    readAnyMembers room (ofMembers members) = .ok members
  | _, [], _, _ => rfl
  | room, (name, value) :: rest, htidy, hreals => by
      obtain ⟨hvalue, hrest⟩ := List.forall_mem_append.1 hreals
      rw [ofMembers, readAnyMembers, readAny_ofJson room value htidy.1 hvalue,
        readAnyMembers_ofMembers room rest htidy.2 hrest]
      rfl

end

theorem membersTidy_iff {room : Nat} {members : List (String × Json)} :
    MembersTidy room members ↔ ∀ m ∈ members, m.2.IsTidy room := by
  induction members with
  | nil => simp [MembersTidy]
  | cons m rest ih =>
      obtain ⟨name, value⟩ := m
      simp [MembersTidy, ih]

mutual

/-- What is read where any value may stand is tidy. -/
theorem isTidy_of_readAny : ∀ (room : Nat) (d : Draft) {value : Json},
    readAny room d = .ok value → value.IsTidy room
  | _, .null _, value, h | _, .bool _ _, value, h => by
      obtain rfl := Except.ok.inj h
      exact True.intro
  | _, .number literal extent, value, h => by
      obtain ⟨n, hn, h⟩ := bind_eq_ok_iff.1 h
      obtain rfl := Except.ok.inj h
      unfold readNumber at hn
      split at hn
      · next m hvalue =>
          obtain rfl := Except.ok.inj hn
          cases m with
          | integer n => exact Literal.bounds_of_value? hvalue
          | real x => exact True.intro
      · cases hn
  | _, .text wording extent, value, h => by
      obtain ⟨s, -, h⟩ := bind_eq_ok_iff.1 h
      obtain rfl := Except.ok.inj h
      exact True.intro
  | room, .list items ending extent, value, h => by
      rw [readAny] at h
      split at h
      · cases h
      · next hroom =>
          obtain ⟨values, hvalues, h⟩ := bind_eq_ok_iff.1 h
          obtain ⟨-, -, h⟩ := bind_eq_ok_iff.1 h
          obtain rfl := Except.ok.inj h
          exact ⟨hroom, itemsTidy_of_readAnyItems (room - 1) items hvalues⟩
  | room, .object members ending extent, value, h => by
      rw [readAny] at h
      split at h
      · cases h
      · next hroom =>
          obtain ⟨entries, hentries, h⟩ := bind_eq_ok_iff.1 h
          obtain ⟨-, -, h⟩ := bind_eq_ok_iff.1 h
          obtain rfl := Except.ok.inj h
          -- The members are put in order only when all of them were read.
          have htidy := membersTidy_of_readAnyMembers (room - 1) members hentries
          exact ⟨hroom, ascending_sortMembers entries,
            membersTidy_iff.2 fun m hm => membersTidy_iff.1 htidy m (mem_of_mem_sortMembers hm)⟩
  | _, .cut _ _, value, h | _, .missing _, value, h => nomatch h

theorem itemsTidy_of_readAnyItems : ∀ (room : Nat) (items : List Draft) {values : List Json},
    readAnyItems room items = .ok values → ItemsTidy room values
  | _, [], values, h => by
      obtain rfl := Except.ok.inj h
      exact True.intro
  | room, item :: rest, values, h => by
      obtain ⟨first, hfirst, h⟩ := bind_eq_ok_iff.1 h
      obtain ⟨others, hothers, h⟩ := bind_eq_ok_iff.1 h
      obtain rfl := Except.ok.inj h
      exact ⟨isTidy_of_readAny room item hfirst, itemsTidy_of_readAnyItems room rest hothers⟩

theorem membersTidy_of_readAnyMembers : ∀ (room : Nat) (members : List (Name × Draft))
    {values : List (String × Json)}, readAnyMembers room members = .ok values →
      MembersTidy room values
  | _, [], values, h => by
      obtain rfl := Except.ok.inj h
      exact True.intro
  | room, (name, value) :: rest, values, h => by
      obtain ⟨word, -, h⟩ := bind_eq_ok_iff.1 h
      obtain ⟨first, hfirst, h⟩ := bind_eq_ok_iff.1 h
      obtain ⟨others, hothers, h⟩ := bind_eq_ok_iff.1 h
      obtain rfl := Except.ok.inj h
      exact ⟨isTidy_of_readAny room value hfirst, membersTidy_of_readAnyMembers room rest hothers⟩

end

/-- Only null is read as null. -/
theorem ne_null_of_readAny {room : Nat} {d : Draft} {value : Json} (hd : ∀ extent, d ≠ .null extent)
    (h : readAny room d = .ok value) : value ≠ .null := by
  rintro rfl
  cases d with
  | null extent => exact hd extent rfl
  | number literal extent =>
      obtain ⟨n, -, h⟩ := bind_eq_ok_iff.1 h
      cases h
  | text wording extent =>
      obtain ⟨s, -, h⟩ := bind_eq_ok_iff.1 h
      cases h
  | list items ending extent =>
      rw [readAny] at h
      split at h
      · cases h
      · obtain ⟨values, -, h⟩ := bind_eq_ok_iff.1 h
        obtain ⟨-, -, h⟩ := bind_eq_ok_iff.1 h
        cases h
  | object members ending extent =>
      rw [readAny] at h
      split at h
      · cases h
      · obtain ⟨values, -, h⟩ := bind_eq_ok_iff.1 h
        obtain ⟨-, -, h⟩ := bind_eq_ok_iff.1 h
        cases h
  | bool | cut | missing => cases h

/-- A tidy value is read back from its own text if its floating-point numbers last. -/
theorem parse?_write {value : Json} (htidy : value.IsTidy nestingRoom)
    (hreals : ∀ x ∈ value.reals, Lasts x) : parse? value.write = some value := by
  have hread : readDocument (readAny nestingRoom) value.write = .ok value :=
    (readDocument_write (placeless_readAny nestingRoom) fun x hx => (hreals x hx).isSpelled).2
      (readAny_ofJson nestingRoom value htidy hreals)
  exact toOption_eq_some_iff.2 hread

/-- To last is to be read back from its own text. -/
theorem lasts_iff {x : Binary64} (h : Scan.IsSpelled x) :
    Lasts x ↔ parse? (Json.number (.real x)).write = some (.number (.real x)) := by
  have hspelled : ∀ y ∈ (Json.number (.real x)).reals, Scan.IsSpelled y := List.forall_mem_singleton.2 h
  refine ⟨fun hlasts => parse?_write True.intro (List.forall_mem_singleton.2 hlasts), fun hparse => ?_⟩
  have hread := toOption_eq_some_iff.1 hparse
  obtain ⟨n, hn, hnumber⟩ :=
    bind_eq_ok_iff.1 ((readDocument_write (placeless_readAny nestingRoom) hspelled).1 hread)
  obtain rfl := Json.number.inj (Except.ok.inj hnumber)
  unfold readNumber at hn
  split at hn
  · next hvalue =>
      obtain rfl := Except.ok.inj hn
      exact hvalue
  · cases hn

end TopicOperator.Json
