import TopicOperator.Proofs.Time.Stamp

/-!
# What can be read of what was written of an instant

An instant whose written form can be read is legible, so it is read back as the start of its second.
A year before the year zero is written with too few digits behind its sign, or with too many.  A
year of more than four digits is cut behind the fourth one, and what follows it is then no date
without dashes.
-/

namespace TopicOperator

namespace Instant

namespace Stamp

open Number

variable {cs rest : List Char} {count n m : Nat}

/-- Digits that are read are the first characters, and spell the number. -/
theorem spelled_of_digits (h : digits count cs = some (n, rest)) :
    ∃ spelled, cs = spelled ++ rest ∧ spelled.length = count ∧ number? spelled 0 = some n := by
  unfold digits at h
  split at h
  · next hlength =>
      obtain ⟨m, hnumber, hpair⟩ := Option.map_eq_some_iff.1 h
      obtain ⟨rfl, rfl⟩ := Prod.mk.inj hpair
      exact ⟨cs.take count, (List.take_append_drop count cs).symm, hlength, hnumber⟩
  · cases h

theorem spelled_of_pair {least greatest : Nat} (h : pair least greatest cs = some (n, rest)) :
    ∃ spelled, cs = spelled ++ rest ∧ spelled.length = 2 ∧ number? spelled 0 = some n := by
  obtain ⟨⟨m, after⟩, hdigits, hbounds⟩ := Option.bind_eq_some_iff.1 h
  dsimp only at hbounds
  split at hbounds
  · obtain ⟨rfl, rfl⟩ := Prod.mk.inj (Option.some.inj hbounds)
    exact spelled_of_digits hdigits
  · cases hbounds

theorem isDigit_of_number? (h : number? cs n = some m) : ∀ c ∈ cs, (digitValue? c).isSome := by
  induction cs generalizing n with
  | nil => exact fun _ hc => absurd hc List.not_mem_nil
  | cons c rest ih =>
      obtain ⟨d, hd, hrest⟩ := Option.bind_eq_some_iff.1 h
      exact List.forall_mem_cons.2 ⟨Option.isSome_of_eq_some hd, ih hrest⟩

/-- Digits behind a number make less of it than they would behind the next one. -/
theorem number?_lt (h : number? cs n = some m) : m < (n + 1) * 10 ^ cs.length := by
  induction cs generalizing n with
  | nil =>
      obtain rfl := Option.some.inj h
      simp
  | cons c rest ih =>
      obtain ⟨d, hd, hrest⟩ := Option.bind_eq_some_iff.1 h
      have hless := digitValue?_lt hd
      calc m < (n * 10 + d + 1) * 10 ^ rest.length := ih hrest
        _ ≤ ((n + 1) * 10) * 10 ^ rest.length := Nat.mul_le_mul_right _ (by omega)
        _ = (n + 1) * 10 ^ (c :: rest).length := by
            rw [List.length_cons, Nat.pow_succ', Nat.mul_assoc]

/-- The first six digits of a number are not those of a number of four digits. -/
theorem large_of_spelled {spelled more : List Char} (hdigits : decimalDigits n = spelled ++ more)
    (hsix : spelled.length = 6) (hnumber : number? spelled 0 = some m) : 9999 < m := by
  have hlength : (decimalDigits n).length = 6 + more.length := by
    rw [hdigits, List.length_append, hsix]
  have hlow : 10 ^ (5 + more.length) ≤ n := by
    refine Nat.not_lt.1 fun hless => ?_
    have hshort := length_decimalDigits_le (by omega) hless
    omega
  have hwhole := number?_decimalDigits n 0
  rw [hdigits, number?_append, hnumber, Option.bind_some, Nat.zero_mul, Nat.zero_add] at hwhole
  refine Nat.not_le.1 fun hsmall => ?_
  have hhigh : n < 10 ^ (5 + more.length) :=
    calc n < (m + 1) * 10 ^ more.length := number?_lt hwhole
      _ ≤ 10 ^ 5 * 10 ^ more.length := Nat.mul_le_mul_right _ (by omega)
      _ = 10 ^ (5 + more.length) := (Nat.pow_add 10 5 more.length).symm
  omega

/-- No reader takes what is written of a negative year for a year. -/
theorem year_writeYear_neg {y : Int} (hnegative : y < 0) (rest : List Char) :
    year (writeYear y ++ '-' :: rest) = none := by
  have hwrite : writeYear y = '-' :: paddedDigits 3 y.natAbs := if_pos hnegative
  rw [hwrite, List.cons_append, year, Option.bind_eq_none_iff]
  rintro ⟨m, after⟩ hsix
  obtain ⟨spelled, hsplit, hlength, hnumber⟩ := spelled_of_digits hsix
  -- The six characters are digits, so they end before the dash.
  have hwithin : ∃ more, paddedDigits 3 y.natAbs = spelled ++ more := by
    rcases List.append_eq_append_iff.1 hsplit with ⟨more, hspelled, hdash⟩ | ⟨more, hdigits, -⟩
    · cases more with
      | nil => exact ⟨[], by rw [hspelled, List.append_nil, List.append_nil]⟩
      | cons c more =>
          obtain ⟨rfl, -⟩ := List.cons.inj hdash
          have hmem : '-' ∈ spelled := hspelled ▸ List.mem_append_right _ List.mem_cons_self
          exact absurd (isDigit_of_number? hnumber _ hmem) (by decide)
    · exact ⟨more, hdigits⟩
  obtain ⟨more, hmore⟩ := hwithin
  -- So many digits are not filled up with zeros.
  have hcount := congrArg List.length hmore
  simp only [paddedDigits, List.length_append, List.length_replicate] at hcount
  have hfull : 3 - (decimalDigits y.natAbs).length = 0 := by omega
  rw [paddedDigits, hfull, List.replicate_zero, List.nil_append] at hmore
  have hlarge := large_of_spelled hmore hlength hnumber
  exact if_neg (by omega)

theorem eq_of_dash {dashed : Bool} (h : dash dashed cs = some rest) (hdashed : dashed = false) :
    rest = cs := by
  subst hdashed
  unfold dash at h
  split at h
  · cases h
  · exact (Option.some.inj h).symm

theorem year_of_ne {c : Char} (hplus : c ≠ '+') (hminus : c ≠ '-') (front : List Char) :
    year (c :: front) = (digits 4 (c :: front)).map fun (n, rest) => ((n : Int), rest) := by
  rw [year]
  · exact fun _ h => hplus (List.cons.inj h).1
  · exact fun _ h => hminus (List.cons.inj h).1

/-- A date without a sign that has no dash behind four digits has no dashes at all: it is made of
digits only. -/
theorem digits_of_date {d : Date} {c : Char} {front : List Char} (hplus : c ≠ '+')
    (hminus : c ≠ '-') (hdash : ((c :: front).drop 4).head? ≠ some '-')
    (h : date (c :: front) = some (d, rest)) :
    ∃ spelled, c :: front = spelled ++ rest ∧ ∀ c ∈ spelled, (digitValue? c).isSome := by
  obtain ⟨⟨y, afterYear⟩, hyear, h⟩ := Option.bind_eq_some_iff.1 h
  rw [year_of_ne hplus hminus] at hyear
  obtain ⟨⟨n, behind⟩, hfour, hsame⟩ := Option.map_eq_some_iff.1 hyear
  obtain ⟨-, rfl⟩ := Prod.mk.inj hsame
  obtain ⟨first, hfirst, hlength, hn⟩ := spelled_of_digits hfour
  have hundashed : decide (behind.head? = some '-') = false := by
    rw [hfirst, List.drop_left' hlength] at hdash
    exact decide_eq_false hdash
  dsimp only at h
  obtain ⟨_, hnone, h⟩ := Option.bind_eq_some_iff.1 h
  obtain rfl := eq_of_dash hnone hundashed
  obtain ⟨⟨month, afterMonth⟩, hmonth, h⟩ := Option.bind_eq_some_iff.1 h
  obtain ⟨second, rfl, -, hsecond⟩ := spelled_of_pair hmonth
  dsimp only at h
  obtain ⟨_, hnone, h⟩ := Option.bind_eq_some_iff.1 h
  obtain rfl := eq_of_dash hnone hundashed
  obtain ⟨⟨day, afterDay⟩, hday, h⟩ := Option.bind_eq_some_iff.1 h
  obtain ⟨third, rfl, -, hthird⟩ := spelled_of_pair hday
  dsimp only at h
  split at h
  · obtain ⟨-, rfl⟩ := Prod.mk.inj (Option.some.inj h)
    refine ⟨first ++ (second ++ third), by simp only [hfirst, List.append_assoc], ?_⟩
    simp only [List.forall_mem_append]
    exact ⟨isDigit_of_number? hn, isDigit_of_number? hsecond, isDigit_of_number? hthird⟩
  · cases h

theorem isDigit_of_writeYear {y : Int} (hlong : 10000 ≤ y) :
    5 ≤ (writeYear y).length ∧ ∀ c ∈ writeYear y, (digitValue? c).isSome := by
  have hlength : 5 ≤ (decimalDigits y.natAbs).length := by
    have hlow := number?_lt (number?_decimalDigits y.natAbs 0)
    rw [Nat.zero_mul, Nat.zero_add, Nat.zero_add, Nat.one_mul] at hlow
    refine Nat.not_lt.1 fun hshort => ?_
    have hpower : 10 ^ (decimalDigits y.natAbs).length ≤ 10 ^ 4 :=
      Nat.pow_le_pow_right (by decide) (by omega)
    omega
  have hfull : 4 - (decimalDigits y.natAbs).length = 0 := by omega
  have hwrite : writeYear y = decimalDigits y.natAbs := by
    rw [writeYear, if_neg (by omega), paddedDigits, hfull]
    rfl
  rw [hwrite]
  refine ⟨hlength, fun c hc => ?_⟩
  obtain ⟨d, hd, rfl⟩ := isDigit_of_mem_decimalDigits hc
  rw [digitValue?_digitChar hd]
  rfl

/-- Where a year of more than four digits is taken for the start of a date, the date ends with a
digit behind it, or with the dash that was written behind the year. -/
theorem date_writeYear_long {y : Int} (hlong : 10000 ≤ y) (back : List Char) {d : Date} {c : Char}
    (h : date (writeYear y ++ '-' :: back) = some (d, c :: rest)) :
    c = '-' ∨ (digitValue? c).isSome := by
  obtain ⟨hfive, hdigits⟩ := isDigit_of_writeYear hlong
  have hbehind : ((writeYear y ++ '-' :: back).drop 4).head? ≠ some '-' := by
    rw [List.drop_append_of_le_length (by omega)]
    cases hdrop : (writeYear y).drop 4 with
    | nil =>
        have := congrArg List.length hdrop
        simp only [List.length_drop, List.length_nil] at this
        omega
    | cons e more =>
        have hmem : e ∈ writeYear y := List.mem_of_mem_drop (hdrop ▸ List.mem_cons_self)
        rintro ⟨⟩
        exact absurd (hdigits _ hmem) (by decide)
  obtain ⟨spelled, hspelled, hall⟩ : ∃ spelled, writeYear y ++ '-' :: back = spelled ++ c :: rest ∧
      ∀ c ∈ spelled, (digitValue? c).isSome := by
    cases hyear : writeYear y with
    | nil =>
        rw [hyear] at hfive
        cases hfive
    | cons e more =>
        have he : (digitValue? e).isSome := hdigits e (hyear ▸ List.mem_cons_self)
        rw [hyear] at h hbehind
        refine digits_of_date ?_ ?_ hbehind h
        · rintro rfl
          exact absurd he (by decide)
        · rintro rfl
          exact absurd he (by decide)
  -- Behind their digits both are the same.
  by_cases hc : (digitValue? c).isSome
  · exact .inr hc
  · let isDigit : Char → Bool := fun c => (digitValue? c).isSome
    have hdash : ('-' :: back).dropWhile isDigit = '-' :: back :=
      List.dropWhile_cons_of_neg (by decide)
    have hend : (c :: rest).dropWhile isDigit = c :: rest := List.dropWhile_cons_of_neg hc
    have hsame := congrArg (List.dropWhile isDigit) hspelled
    rw [List.dropWhile_append_of_pos hdigits, List.dropWhile_append_of_pos hall, hdash, hend] at hsame
    exact .inl (List.cons.inj hsame).1.symm

end Stamp

theorem year_nonneg_of_read? {t t' : Instant} (h : read? t.write = some t') :
    0 ≤ (Date.ofDay (t.seconds / daySeconds)).year := by
  obtain ⟨⟨date, cs⟩, hdate, -⟩ := Option.bind_eq_some_iff.1 h
  refine Int.not_lt.1 fun hnegative => ?_
  rw [write, String.toList_ofList, writeDate, List.append_assoc, List.cons_append] at hdate
  obtain ⟨_, hyear, -⟩ := Option.bind_eq_some_iff.1 hdate
  rw [Stamp.year_writeYear_neg hnegative] at hyear
  cases hyear

theorem year_lt_of_read? {t t' : Instant} (h : read? t.write = some t') :
    (Date.ofDay (t.seconds / daySeconds)).year < 10000 := by
  obtain ⟨⟨date, cs⟩, hdate, hrest⟩ := Option.bind_eq_some_iff.1 h
  refine Int.not_le.1 fun hlong => ?_
  rw [write, String.toList_ofList, writeDate, List.append_assoc, List.cons_append] at hdate
  cases cs with
  | nil => cases hrest
  | cons c cs =>
      dsimp only at hrest
      split at hrest
      · next hseparator =>
          rcases Stamp.date_writeYear_long hlong _ hdate with rfl | hdigit
          · exact absurd hseparator (by decide)
          · rcases hseparator with rfl | rfl | rfl <;> exact absurd hdigit (by decide)
      · cases hrest

/-- An instant whose written form can be read is legible. -/
theorem isLegible_of_read? {t t' : Instant} (h : read? t.write = some t') : t.IsLegible := by
  have hnonneg := year_nonneg_of_read? h
  have hfour := year_lt_of_read? h
  rw [read?_write_of_year hnonneg hfour] at h
  split at h
  · next hrange => exact isLegible_iff.2 ⟨hrange, hnonneg, hfour⟩
  · cases h

end Instant

end TopicOperator
