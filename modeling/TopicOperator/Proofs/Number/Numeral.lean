import Mathlib.Tactic.Ring
import TopicOperator.Proofs.Number.Decimal

/-!
# Numerals

A numeral is one or more ASCII digits behind at most one sign.  It stands for the integer to which its
digits add up, each one counted by its place.  An integer with a sign is read from the numerals of the
integers between its bounds, and from nothing else.  Reading stops at the first digit that does not
fit, but leading zeros always fit, so there may be any number of them.
-/

namespace TopicOperator.Number

/-- An ASCII digit. -/
def IsDigit (c : Char) : Prop := '0' ≤ c ∧ c ≤ '9'

instance : DecidablePred IsDigit := fun c => inferInstanceAs (Decidable ('0' ≤ c ∧ c ≤ '9'))

/-- What digits add up to, each one counted by its place. -/
def placeValue : List Char → Nat
  | [] => 0
  | c :: rest => (c.toNat - '0'.toNat) * 10 ^ rest.length + placeValue rest

/-- One or more digits. -/
structure AreDigits (cs : List Char) : Prop where
  nonempty : cs ≠ []
  digits : ∀ c ∈ cs, IsDigit c

/-- Characters that are a numeral of an integer. -/
inductive Numeral : List Char → Int → Prop
  | unsigned {digits : List Char} (h : AreDigits digits) : Numeral digits (placeValue digits)
  | plus {digits : List Char} (h : AreDigits digits) : Numeral ('+' :: digits) (placeValue digits)
  | minus {digits : List Char} (h : AreDigits digits) : Numeral ('-' :: digits) (-placeValue digits)

variable {c : Char} {cs digits : List Char} {bound value m : Nat} {n : Int}

theorem digitValue?_eq_some_iff {d : Nat} :
    digitValue? c = some d ↔ IsDigit c ∧ c.toNat - '0'.toNat = d := by
  unfold digitValue?
  split
  · next hdigit => exact ⟨fun h => ⟨hdigit, Option.some.inj h⟩, fun h => congrArg some h.2⟩
  · next hother => exact ⟨nofun, fun h => absurd h.1 hother⟩

theorem digitValue?_eq_none_iff : digitValue? c = none ↔ ¬ IsDigit c := by
  unfold digitValue?
  split
  · next hdigit => exact iff_of_false nofun (not_not_intro hdigit)
  · next hother => exact iff_of_true rfl hother

theorem isDigit_digitChar {d : Nat} (h : d < 10) : IsDigit (digitChar d) :=
  (digitValue?_eq_some_iff.1 (digitValue?_digitChar h)).1

/-- Digits in front count more, by as many places as come behind. -/
theorem placeValue_append (front back : List Char) :
    placeValue (front ++ back) = placeValue front * 10 ^ back.length + placeValue back := by
  induction front with
  | nil => simp [placeValue]
  | cons c rest ih =>
      rw [List.cons_append, placeValue, placeValue, ih, List.length_append, Nat.pow_add]
      ring

/-- The value of digits is below the power of ten of their count. -/
theorem placeValue_lt (h : ∀ c ∈ digits, IsDigit c) : placeValue digits < 10 ^ digits.length := by
  induction digits with
  | nil => simp [placeValue]
  | cons c rest ih =>
      obtain ⟨hc, hrest⟩ := List.forall_mem_cons.1 h
      have hlast := ih hrest
      have hnine : c.toNat - '0'.toNat ≤ 9 := Nat.sub_le_of_le_add hc.2
      have hfirst : (c.toNat - '0'.toNat) * 10 ^ rest.length ≤ 9 * 10 ^ rest.length :=
        Nat.mul_le_mul_right _ hnine
      rw [placeValue, List.length_cons, Nat.pow_succ]
      omega

/-- Digits that follow a number are read as those of one number, if that is not too large. -/
theorem readUpTo_eq_ok_iff (hvalue : value ≤ bound) : readUpTo bound value digits = .ok m ↔
    (∀ c ∈ digits, IsDigit c) ∧ value * 10 ^ digits.length + placeValue digits = m ∧ m ≤ bound := by
  induction digits generalizing value with
  | nil =>
      simp only [readUpTo, Except.ok.injEq, List.not_mem_nil, false_implies, implies_true,
        List.length_nil, Nat.pow_zero, Nat.mul_one, placeValue, Nat.add_zero, true_and]
      exact ⟨fun h => ⟨h, h ▸ hvalue⟩, And.left⟩
  | cons c rest ih =>
      rw [readUpTo, List.forall_mem_cons]
      cases hdigit : digitValue? c with
      | none =>
          refine iff_of_false (fun h => by cases h) fun h => ?_
          exact digitValue?_eq_none_iff.1 hdigit h.1.1
      | some d =>
          obtain ⟨hc, rfl⟩ := digitValue?_eq_some_iff.1 hdigit
          have hshift : value * 10 ^ (c :: rest).length + placeValue (c :: rest) =
              (value * 10 + (c.toNat - '0'.toNat)) * 10 ^ rest.length + placeValue rest := by
            rw [placeValue, List.length_cons, Nat.pow_succ]
            ring
          rw [hshift, and_iff_right hc]
          dsimp only
          split
          · next hlarge =>
              -- The digits that follow only make the number larger.
              refine iff_of_false (fun h => by cases h) ?_
              rintro ⟨-, rfl, hfits⟩
              have hgrows := Nat.le_mul_of_pos_right (value * 10 + (c.toNat - '0'.toNat))
                (Nat.pow_pos (n := rest.length) (by decide : 0 < 10))
              omega
          · next hfits => exact ih (Nat.not_lt.1 hfits)

theorem areDigits_iff_of_ne_nil (h : cs ≠ []) : AreDigits cs ↔ ∀ c ∈ cs, IsDigit c :=
  ⟨AreDigits.digits, AreDigits.mk h⟩

theorem not_numeral_nil : ¬ Numeral [] n := by
  intro h
  cases h with
  | unsigned h => exact h.nonempty rfl

theorem numeral_plus_iff :
    Numeral ('+' :: digits) n ↔ AreDigits digits ∧ (placeValue digits : Int) = n := by
  constructor
  · intro h
    cases h with
    | unsigned h => exact absurd (h.digits '+' List.mem_cons_self) (by decide)
    | plus h => exact ⟨h, rfl⟩
  · rintro ⟨h, rfl⟩
    exact .plus h

theorem numeral_minus_iff :
    Numeral ('-' :: digits) n ↔ AreDigits digits ∧ -(placeValue digits : Int) = n := by
  constructor
  · intro h
    cases h with
    | unsigned h => exact absurd (h.digits '-' List.mem_cons_self) (by decide)
    | minus h => exact ⟨h, rfl⟩
  · rintro ⟨h, rfl⟩
    exact .minus h

/-- Where no sign stands in front, there are only digits. -/
theorem numeral_iff_of_no_sign (hplus : ∀ rest, cs ≠ '+' :: rest) (hminus : ∀ rest, cs ≠ '-' :: rest) :
    Numeral cs n ↔ AreDigits cs ∧ (placeValue cs : Int) = n := by
  constructor
  · intro h
    cases h with
    | unsigned h => exact ⟨h, rfl⟩
    | plus => exact absurd rfl (hplus _)
    | minus => exact absurd rfl (hminus _)
  · rintro ⟨h, rfl⟩
    exact .unsigned h

/-- Digits alone are read as what they add up to. -/
theorem readDigits_iff (hne : digits ≠ []) :
    ((readUpTo bound 0 digits).map Int.ofNat).toOption = some n ↔
      (AreDigits digits ∧ (placeValue digits : Int) = n) ∧ n ≤ bound := by
  have hread (m : Nat) : readUpTo bound 0 digits = .ok m ↔
      AreDigits digits ∧ placeValue digits = m ∧ m ≤ bound := by
    rw [readUpTo_eq_ok_iff (Nat.zero_le _), areDigits_iff_of_ne_nil hne, Nat.zero_mul, Nat.zero_add]
  constructor
  · intro h
    cases hdone : readUpTo bound 0 digits with
    | error e =>
        rw [hdone] at h
        cases h
    | ok m =>
        rw [hdone] at h
        obtain rfl := Option.some.inj h
        obtain ⟨hdigits, hvalue, hfits⟩ := (hread m).1 hdone
        exact ⟨⟨hdigits, congrArg Int.ofNat hvalue⟩, Int.ofNat_le.2 hfits⟩
  · rintro ⟨⟨hdigits, rfl⟩, hfits⟩
    rw [(hread _).2 ⟨hdigits, rfl, Int.ofNat_le.1 hfits⟩]
    rfl

/-- Digits behind a minus sign. -/
theorem readNegative_iff (hne : digits ≠ []) :
    (match readUpTo bound 0 digits with
      | .ok m => .ok (-(m : Int))
      | .error .tooLarge => .error .tooSmall
      | .error e => .error e : Except IntegerError Int).toOption = some n ↔
      (AreDigits digits ∧ -(placeValue digits : Int) = n) ∧ -(bound : Int) ≤ n := by
  have hpositive : ((readUpTo bound 0 digits).map Int.ofNat).toOption = some (-n) ↔
      (AreDigits digits ∧ (placeValue digits : Int) = -n) ∧ -n ≤ bound := readDigits_iff hne
  have hturn : (-(placeValue digits : Int) = n) = ((placeValue digits : Int) = -n) :=
    propext ⟨fun h => by omega, fun h => by omega⟩
  have hbound : (-(bound : Int) ≤ n) = (-n ≤ (bound : Int)) :=
    propext ⟨fun h => by omega, fun h => by omega⟩
  rw [hturn, hbound, ← hpositive]
  cases readUpTo bound 0 digits with
  | ok m =>
      show some (-(m : Int)) = some n ↔ some (m : Int) = some (-n)
      rw [Option.some.injEq, Option.some.injEq]
      omega
  | error e => cases e <;> exact iff_of_false nofun nofun

/-- A bounded integer with a sign is read from the numerals of the integers between its bounds. -/
theorem read?_eq_some_iff {kind : IntegerKind} (hsigned : kind.signed = true) (hleast : kind.least ≤ 0)
    (hgreatest : 0 ≤ kind.greatest) {s : String} :
    kind.read? s = some n ↔ Numeral s.toList n ∧ kind.least ≤ n ∧ n ≤ kind.greatest := by
  have hunsigned {digits : List Char} (hne : digits ≠ []) :
      ((readUpTo kind.greatest.toNat 0 digits).map Int.ofNat).toOption = some n ↔
        (AreDigits digits ∧ (placeValue digits : Int) = n) ∧ kind.least ≤ n ∧ n ≤ kind.greatest := by
    rw [readDigits_iff hne, Int.toNat_of_nonneg hgreatest]
    refine and_congr_right fun hvalue => (and_iff_right ?_).symm
    have := hvalue.2
    omega
  rw [IntegerKind.read?, IntegerKind.read]
  split
  · next hs =>
      rw [hs]
      exact iff_of_false (fun h => by cases h) fun h => not_numeral_nil h.1
  · next hs =>
      rw [hs, numeral_plus_iff]
      exact iff_of_false (fun h => by cases h) fun h => h.1.1.nonempty rfl
  · next hs =>
      rw [hs, numeral_minus_iff]
      exact iff_of_false (fun h => by cases h) fun h => h.1.1.nonempty rfl
  · next digits hdigits hs =>
      rw [hs, numeral_plus_iff]
      exact hunsigned hdigits
  · next digits hdigits hs =>
      have hbound : ((-kind.least).toNat : Int) = -kind.least := Int.toNat_of_nonneg (by omega)
      rw [if_pos hsigned, hs, numeral_minus_iff]
      refine (readNegative_iff hdigits).trans (and_congr_right fun hvalue => ?_)
      rw [hbound]
      have := hvalue.2
      omega
  · next hempty _ _ hplus hminus =>
      rw [numeral_iff_of_no_sign hplus hminus]
      exact hunsigned hempty

/-- The decimal digits of a number add up to it. -/
theorem placeValue_decimalDigits (n : Nat) : placeValue (decimalDigits n) = n := by
  have hdigit {d : Nat} (h : d < 10) : placeValue [digitChar d] = d := by
    obtain ⟨-, hvalue⟩ := digitValue?_eq_some_iff.1 (digitValue?_digitChar h)
    rw [placeValue, hvalue]
    simp [placeValue]
  rw [decimalDigits]
  split
  · next hsmall => exact hdigit hsmall
  · rw [placeValue_append, placeValue_decimalDigits (n / 10), hdigit (Nat.mod_lt n (by decide))]
    exact Nat.div_add_mod' n 10
termination_by n

theorem areDigits_decimalDigits (n : Nat) : AreDigits (decimalDigits n) := by
  obtain ⟨first, others, hdigits, -⟩ := exists_decimalDigits n
  refine ⟨by rw [hdigits]; exact List.cons_ne_nil _ _, fun c hc => ?_⟩
  obtain ⟨d, hd, rfl⟩ := isDigit_of_mem_decimalDigits hc
  exact isDigit_digitChar hd

/-- An integer in decimal is a numeral of it. -/
theorem numeral_signedDigits (n : Int) : Numeral (signedDigits n) n := by
  have hvalue := placeValue_decimalDigits n.natAbs
  unfold signedDigits
  split
  · refine numeral_minus_iff.2 ⟨areDigits_decimalDigits _, ?_⟩
    omega
  · have hnumeral : Numeral _ _ := .unsigned (areDigits_decimalDigits n.natAbs)
    rwa [hvalue, Int.natAbs_of_nonneg (by omega)] at hnumeral

end TopicOperator.Number
