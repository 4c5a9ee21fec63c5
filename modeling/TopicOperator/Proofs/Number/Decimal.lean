import Mathlib.Algebra.Group.Nat.Defs
import TopicOperator.Json.Literal
import TopicOperator.Number.Integer

/-!
# Decimal digits

The decimal digits of a number spell it, and a number that is read lies between its bounds.  A literal
made of the digits of an integer stands for that integer as long as it has 64 bits.
-/

namespace TopicOperator

namespace Number

theorem digitValue?_digitChar {d : Nat} (h : d < 10) : digitValue? (digitChar d) = some d := by
  have hall : ∀ d < 10, digitValue? (digitChar d) = some d := by decide
  exact hall d h

theorem digitValue?_lt {c : Char} {d : Nat} (h : digitValue? c = some d) : d < 10 := by
  unfold digitValue? at h
  split at h
  · next hdigit =>
      have hnine : c.toNat ≤ 57 := hdigit.2
      have hvalue := Option.some.inj h
      omega
  · cases h

theorem isDigit_of_mem_decimalDigits {n : Nat} {c : Char} (h : c ∈ decimalDigits n) :
    ∃ d < 10, c = digitChar d := by
  rw [decimalDigits] at h
  split at h
  · next hsmall => exact ⟨n, hsmall, List.mem_singleton.1 h⟩
  · rcases List.mem_append.1 h with hfront | hlast
    · exact isDigit_of_mem_decimalDigits hfront
    · exact ⟨n % 10, Nat.mod_lt n (by decide), List.mem_singleton.1 hlast⟩
termination_by n

/-- The digits of a number start with a zero for zero alone. -/
theorem exists_decimalDigits (n : Nat) :
    ∃ first others, decimalDigits n = first :: others ∧ (first = '0' → n = 0) := by
  rw [decimalDigits]
  split
  · next hsmall =>
      refine ⟨digitChar n, [], rfl, ?_⟩
      have hall : ∀ n < 10, digitChar n = '0' → n = 0 := by decide
      exact hall n hsmall
  · obtain ⟨first, others, hdigits, hzero⟩ := exists_decimalDigits (n / 10)
    refine ⟨first, others ++ [digitChar (n % 10)], by rw [hdigits]; rfl, fun hfirst => ?_⟩
    have := hzero hfirst
    omega
termination_by n

/-- A number below a power of ten has at most as many digits as the exponent. -/
theorem length_decimalDigits_le {n k : Nat} (hk : 1 ≤ k) (h : n < 10 ^ k) :
    (decimalDigits n).length ≤ k := by
  induction k generalizing n with
  | zero => omega
  | succ k ih =>
      rw [decimalDigits]
      split
      · simp
      · next hlarge =>
          have hpositive : 1 ≤ k := by
            rcases k with - | k
            · omega
            · omega
          have hshort : n / 10 < 10 ^ k := by
            rw [Nat.pow_succ] at h
            omega
          have := ih hpositive hshort
          simp only [List.length_append, List.length_singleton]
          omega

/-- The digits of a number are those of its tenth, and one more. -/
theorem digitsOf_decimalDigits (n : Nat) :
    Json.Literal.digitsOf (decimalDigits n) =
      if n < 10 then [n] else Json.Literal.digitsOf (decimalDigits (n / 10)) ++ [n % 10] := by
  rw [decimalDigits]
  split
  · next hsmall => simp [Json.Literal.digitsOf, digitValue?_digitChar hsmall]
  · have hlast := digitValue?_digitChar (Nat.mod_lt n (by decide : 0 < 10))
    simp [Json.Literal.digitsOf, List.filterMap_append, hlast]

theorem readUpTo_le {bound value n : Nat} {digits : List Char} (hvalue : value ≤ bound)
    (h : readUpTo bound value digits = .ok n) : n ≤ bound := by
  induction digits generalizing value with
  | nil => exact Except.ok.inj h ▸ hvalue
  | cons c rest ih =>
      rw [readUpTo] at h
      split at h
      · cases h
      · split at h
        · cases h
        · next hfits => exact ih (Nat.not_lt.1 hfits) h

/-- A number that is read lies between the bounds. -/
theorem bounds_of_read {kind : IntegerKind} (hleast : kind.least ≤ 0) (hgreatest : 0 ≤ kind.greatest)
    {s : String} {n : Int} (h : kind.read? s = some n) : kind.least ≤ n ∧ n ≤ kind.greatest := by
  have hdigits {digits : List Char}
      (h : ((readUpTo kind.greatest.toNat 0 digits).map Int.ofNat).toOption = some n) :
      kind.least ≤ n ∧ n ≤ kind.greatest := by
    cases hread : readUpTo kind.greatest.toNat 0 digits with
    | error e =>
        rw [hread] at h
        cases h
    | ok m =>
        rw [hread] at h
        obtain rfl := Option.some.inj h
        have := readUpTo_le (Nat.zero_le _) hread
        simp only [Int.ofNat_eq_natCast]
        omega
  rw [IntegerKind.read?, IntegerKind.read] at h
  split at h
  · cases h
  · cases h
  · cases h
  · exact hdigits h
  · split at h
    · split at h
      · next m hread =>
          obtain rfl := Option.some.inj h
          have := readUpTo_le (Nat.zero_le _) hread
          omega
      · cases h
      · cases h
    · cases h
  · exact hdigits h

end Number

namespace Json.Literal

/-- One more digit after digits that fit. -/
theorem collect_append {n m : Nat} {digits : List Nat} (h : collect n digits = (m, 0)) {d : Nat}
    (hfits : m * 10 + d ≤ greatestWord) : collect n (digits ++ [d]) = (m * 10 + d, 0) := by
  induction digits generalizing n with
  | nil =>
      obtain rfl : n = m := congrArg Prod.fst h
      rw [List.nil_append, collect, if_neg (Nat.not_lt.2 hfits)]
      rfl
  | cons first rest ih =>
      rw [collect] at h
      split at h
      · cases h
      · next hsmall =>
          rw [List.cons_append, collect, if_neg hsmall]
          exact ih h

/-- The digits of a number that fits are collected to that number. -/
theorem collect_decimalDigits {n : Nat} (h : n ≤ greatestWord) :
    collect 0 (digitsOf (Number.decimalDigits n)) = (n, 0) := by
  rw [Number.digitsOf_decimalDigits]
  split
  · rw [collect, Nat.zero_mul, Nat.zero_add, if_neg (Nat.not_lt.2 h)]
    rfl
  · have hsplit : n / 10 * 10 + n % 10 = n := Nat.div_add_mod' n 10
    have hfront := collect_decimalDigits (Nat.le_trans (Nat.div_le_self n 10) h)
    rw [collect_append hfront (by omega), hsplit]
termination_by n

/-- A literal that was made of an integer of 64 bits, with or without a sign, stands for it. -/
theorem value?_ofInteger {n : Int} (hleast : Number.int64.least ≤ n)
    (hgreatest : n ≤ Number.word64.greatest) : (ofInteger n).value? = some (.integer n) := by
  simp only [Number.int64] at hleast
  simp only [Number.word64] at hgreatest
  have hcollect := collect_decimalDigits (n := n.natAbs) (by unfold greatestWord; omega)
  by_cases hnegative : n < 0
  · have hrange : 0 < n.natAbs ∧ n.natAbs ≤ 9223372036854775808 := by omega
    have hsame : -(n.natAbs : Int) = n := by omega
    simp only [value?, ofInteger, hcollect, hnegative, decide_true, hrange, hsame]
    rfl
  · have hsame : (n.natAbs : Int) = n := by omega
    simp only [value?, ofInteger, hcollect, hnegative, decide_false, hsame]
    rfl

theorem collect_le {n : Nat} {digits : List Nat} (h : n ≤ greatestWord) :
    (collect n digits).1 ≤ greatestWord := by
  induction digits generalizing n with
  | nil => exact h
  | cons d rest ih =>
      rw [collect]
      split
      · exact h
      · next hfits => exact ih (Nat.not_lt.1 hfits)

theorem map_withSign_ne_integer (l : Literal) (x : Option Number.Binary64) (n : Int) :
    x.map l.withSign ≠ some (.integer n) := by
  cases x <;> nofun

/-- An integer that a literal stands for has 64 bits, with or without a sign. -/
theorem bounds_of_value? {l : Literal} {n : Int} (h : l.value? = some (.integer n)) :
    Number.int64.least ≤ n ∧ n ≤ Number.word64.greatest := by
  have hfits : (collect 0 l.whole).1 ≤ greatestWord := collect_le (Nat.zero_le _)
  simp only [greatestWord] at hfits
  simp only [Number.int64, Number.word64]
  unfold value? at h
  dsimp only at h
  split at h
  · split at h
    · obtain rfl := JsonNumber.integer.inj (Option.some.inj h)
      omega
    · split at h
      · obtain rfl := JsonNumber.integer.inj (Option.some.inj h)
        omega
      · exact absurd h (map_withSign_ne_integer _ _ _)
  · exact absurd h (map_withSign_ne_integer _ _ _)

/-- Digits that all fit are collected to the number that they spell. -/
theorem eq_of_collect {n m : Nat} {digits : List Nat} (h : collect n digits = (m, 0)) :
    digits.foldl (fun n d => n * 10 + d) n = m := by
  induction digits generalizing n with
  | nil => exact congrArg Prod.fst h
  | cons d rest ih =>
      rw [collect] at h
      split at h
      · cases h
      · exact ih h

theorem ofDigits_decimalDigits (n : Nat) : ofDigits (digitsOf (Number.decimalDigits n)) = n := by
  rw [Number.digitsOf_decimalDigits]
  split
  · exact Nat.zero_add n
  · have hfront := ofDigits_decimalDigits (n / 10)
    rw [ofDigits, List.foldl_append]
    rw [ofDigits] at hfront
    rw [hfront]
    exact Nat.div_add_mod' n 10
termination_by n

/-- Where a literal that was made of an integer stands for an integer, it is the same one. -/
theorem eq_of_value?_ofInteger {n m : Int} (h : (ofInteger n).value? = some (.integer m)) : m = n := by
  unfold value? at h
  dsimp only at h
  split at h
  · next hwhole =>
      have hspelled := eq_of_collect (Prod.ext rfl hwhole.1 :
        collect 0 (ofInteger n).whole = ((collect 0 (ofInteger n).whole).1, 0))
      have hcollect : (collect 0 (ofInteger n).whole).1 = n.natAbs :=
        hspelled.symm.trans (ofDigits_decimalDigits n.natAbs)
      rw [hcollect] at h
      split at h
      · next hsign =>
          have hnonneg : ¬ n < 0 := by simpa [ofInteger] using hsign
          obtain rfl := JsonNumber.integer.inj (Option.some.inj h)
          omega
      · next hsign =>
          have hnegative : n < 0 := by simpa [ofInteger] using hsign
          split at h
          · obtain rfl := JsonNumber.integer.inj (Option.some.inj h)
            omega
          · exact absurd h (map_withSign_ne_integer _ _ _)
  · exact absurd h (map_withSign_ne_integer _ _ _)

end Json.Literal

end TopicOperator
