import TopicOperator.Proofs.Number.Decimal
import TopicOperator.Proofs.Time.Calendar
import TopicOperator.Time.Stamp

/-!
# Reading what was written of an instant

The written form of an instant is read back as the start of its second.  This holds from the year
zero on: earlier years are written with a sign and three digits, which no reader takes for a year.
-/

namespace TopicOperator

namespace Instant

namespace Stamp

open Number

theorem number?_append (front back : List Char) (n : Nat) :
    number? (front ++ back) n = (number? front n).bind (number? back) := by
  induction front generalizing n with
  | nil => rfl
  | cons c rest ih =>
      rw [List.cons_append, number?, number?]
      cases digitValue? c with
      | none => rfl
      | some d => exact ih (n * 10 + d)

/-- Digits of a number behind those of another one spell both. -/
theorem number?_decimalDigits (n m : Nat) :
    number? (decimalDigits n) m = some (m * 10 ^ (decimalDigits n).length + n) := by
  rw [decimalDigits]
  split
  · next hsmall => simp [number?, digitValue?_digitChar hsmall]
  · have hlast := digitValue?_digitChar (Nat.mod_lt n (by decide : 0 < 10))
    have hfront := number?_decimalDigits (n / 10) m
    rw [number?_append, hfront]
    simp only [Option.bind_some, number?, hlast, List.length_append, List.length_singleton,
      Nat.pow_succ, Option.some.injEq]
    rw [Nat.add_mul, ← Nat.mul_assoc, Nat.add_assoc]
    congr 1
    omega
termination_by n

theorem number?_zeros (count : Nat) : number? (List.replicate count '0') 0 = some 0 := by
  induction count with
  | zero => rfl
  | succ count ih => exact ih

theorem length_paddedDigits {width n : Nat} (hwidth : 1 ≤ width) (h : n < 10 ^ width) :
    (paddedDigits width n).length = width := by
  have hshort := length_decimalDigits_le hwidth h
  simp only [paddedDigits, List.length_append, List.length_replicate]
  omega

/-- Digits that were filled up to a width are read back as a number of that width. -/
theorem digits_paddedDigits {width n : Nat} (hwidth : 1 ≤ width) (h : n < 10 ^ width)
    (rest : List Char) : digits width (paddedDigits width n ++ rest) = some (n, rest) := by
  have hlength := length_paddedDigits hwidth h
  have htake : (paddedDigits width n ++ rest).take width = paddedDigits width n :=
    List.take_left' hlength
  have hdrop : (paddedDigits width n ++ rest).drop width = rest := List.drop_left' hlength
  have hnumber : number? (paddedDigits width n) 0 = some n := by
    rw [paddedDigits, number?_append, number?_zeros, Option.bind_some, number?_decimalDigits,
      Nat.zero_mul, Nat.zero_add]
  rw [digits, htake, hdrop, if_pos hlength, hnumber]
  rfl

theorem pair_paddedDigits {least greatest n : Nat} (hgreatest : greatest < 100) (hleast : least ≤ n)
    (h : n ≤ greatest) (rest : List Char) :
    pair least greatest (paddedDigits 2 n ++ rest) = some (n, rest) := by
  rw [pair, digits_paddedDigits (by decide) (by omega), Option.bind_some]
  exact if_pos ⟨hleast, h⟩

/-- A year of up to four digits is read back. -/
theorem year_writeYear {n : Int} (hnonneg : 0 ≤ n) (h : n < 10000) (rest : List Char) :
    year (writeYear n ++ rest) = some (n, rest) := by
  have hread : digits 4 (paddedDigits 4 n.natAbs ++ rest) = some (n.natAbs, rest) :=
    digits_paddedDigits (by decide) (by omega) rest
  have hwrite : writeYear n = paddedDigits 4 n.natAbs := if_neg (by omega)
  -- The digits start with no sign, so they are taken for a year of four digits.
  have hdigit : ∀ c ∈ paddedDigits 4 n.natAbs, c ≠ '+' ∧ c ≠ '-' := by
    intro c hc
    have hnosign : ∀ d < 10, digitChar d ≠ '+' ∧ digitChar d ≠ '-' := by decide
    rcases List.mem_append.1 hc with hzero | hmem
    · rw [List.eq_of_mem_replicate hzero]
      decide
    · obtain ⟨d, hd, rfl⟩ := isDigit_of_mem_decimalDigits hmem
      exact hnosign d hd
  have hlength : (paddedDigits 4 n.natAbs).length = 4 :=
    length_paddedDigits (by decide) (by omega)
  rw [hwrite]
  obtain ⟨c, cs, hcons⟩ := List.exists_cons_of_length_eq_add_one hlength
  rw [hcons] at hread hdigit ⊢
  obtain ⟨hplus, hminus⟩ := hdigit c List.mem_cons_self
  rw [List.cons_append] at hread ⊢
  rw [year]
  · have hn : (n.natAbs : Int) = n := by omega
    rw [hread, Option.map_some]
    exact congrArg (fun m : Int => some (m, rest)) hn
  · exact fun _ h => hplus (List.cons.inj h).1
  · exact fun _ h => hminus (List.cons.inj h).1

/-- A date of a year of up to four digits is read back. -/
theorem date_writeDate {d : Date} (hvalid : d.isValid = true) (hnonneg : 0 ≤ d.year)
    (h : d.year < 10000) (rest : List Char) :
    date (writeDate d ++ rest) = some (d, rest) := by
  obtain ⟨hmonth, htwelve, hday, hlong⟩ := Date.bounds_of_isValid hvalid
  simp only [writeDate, List.append_assoc, List.cons_append, date]
  rw [year_writeYear hnonneg h]
  simp only [Option.bind_eq_bind, Option.bind_some, List.head?_cons, decide_true, dash, if_true]
  rw [pair_paddedDigits (by decide) hmonth htwelve]
  simp only [Option.bind_some]
  rw [pair_paddedDigits (by decide) hday hlong]
  simp [hvalid]

theorem clock_writeClock {n : Nat} (h : n < 86400) (rest : List Char) :
    clock (writeClock n ++ 'Z' :: rest) = some ((n, 0), 'Z' :: rest) := by
  simp only [writeClock, List.append_assoc, List.cons_append, clock]
  rw [pair_paddedDigits (by decide) (by omega) (by omega)]
  simp only [Option.bind_eq_bind, Option.bind_some, List.head?_cons, decide_true, further?]
  rw [pair_paddedDigits (by decide) (by omega) (by omega)]
  simp only [Option.bind_some]
  rw [pair_paddedDigits (by decide) (by omega) (by omega)]
  have hnone : ¬ ('Z' = '.' ∨ 'Z' = ',') := by decide
  have hsecond : n / 3600 * 3600 + n / 60 % 60 * 60 + min (n % 60) 59 = n := by omega
  simp only [Option.bind_some, fraction, if_neg hnone, hsecond]

end Stamp

/-- The second at which the year zero starts. -/
def yearZero : Int := -62167219200

/-- An instant whose written form can be read: from the year zero up to the last second that a time
stamp can name. -/
def IsLegible (t : Instant) : Prop :=
  yearZero ≤ t.seconds ∧ t.seconds ≤ lastSecond

/-- What is written of an instant in a year of up to four digits is read back as the start of its
second, as far as time stamps go. -/
theorem read?_write_of_year {t : Instant}
    (hnonneg : 0 ≤ (Date.ofDay (t.seconds / daySeconds)).year)
    (hfour : (Date.ofDay (t.seconds / daySeconds)).year < 10000) :
    read? t.write =
      if firstSecond ≤ t.seconds ∧ t.seconds ≤ lastSecond then some t.toSecond else none := by
  -- The day and the second of the day are written apart and put together again.
  have hsplit : t.seconds / daySeconds * daySeconds + t.seconds % daySeconds = t.seconds := by
    unfold daySeconds
    omega
  have hsecond : (t.seconds % daySeconds).toNat < 86400 := by
    unfold daySeconds
    omega
  have hsecond' : ((t.seconds % daySeconds).toNat : Int) = t.seconds % daySeconds := by
    unfold daySeconds
    omega
  have hdate := Stamp.date_writeDate (Date.isValid_ofDay (t.seconds / daySeconds)) hnonneg hfour
    ('T' :: (writeClock (t.seconds % daySeconds).toNat ++ ['Z']))
  have hclock := Stamp.clock_writeClock hsecond []
  simp only [write, read?, String.toList_ofList, hdate, Option.bind_eq_bind, Option.bind_some,
    true_or, if_true, hclock, Stamp.offset, Stamp.areAnnotations, Date.toDay_ofDay, hsecond', hsplit,
    Int.sub_zero, true_and]
  congr 1
  simp [toSecond, ofSeconds]

theorem year_ofDay (n : Int) : (Date.ofDay n).year = Date.yearOf (n + Date.epoch) := by
  obtain ⟨months, day, length, hdate, -⟩ := Date.ofDay_spec n
  rw [hdate]

/-- A legible instant is one that a time stamp can name and whose year has up to four digits. -/
theorem isLegible_iff {t : Instant} :
    t.IsLegible ↔ (firstSecond ≤ t.seconds ∧ t.seconds ≤ lastSecond) ∧
      0 ≤ (Date.ofDay (t.seconds / daySeconds)).year ∧
      (Date.ofDay (t.seconds / daySeconds)).year < 10000 := by
  rw [year_ofDay]
  constructor
  · rintro ⟨hearly, hlate⟩
    simp only [yearZero, lastSecond] at hearly hlate
    refine ⟨?_, Date.yearOf_nonneg ?_, Date.yearOf_lt ?_⟩
    · unfold firstSecond lastSecond
      omega
    · unfold daySeconds Date.epoch
      omega
    · unfold daySeconds Date.epoch Date.daysBefore
      omega
  · rintro ⟨⟨-, hlate⟩, hnonneg, -⟩
    have hday := Date.nonneg_of_yearOf hnonneg
    unfold daySeconds Date.epoch at hday
    refine ⟨?_, hlate⟩
    unfold yearZero
    omega

/-- What is written of an instant is read back as the start of its second. -/
theorem read?_write {t : Instant} (h : t.IsLegible) : read? t.write = some t.toSecond := by
  obtain ⟨hrange, hnonneg, hfour⟩ := isLegible_iff.1 h
  rw [read?_write_of_year hnonneg hfour, if_pos hrange]

end Instant

end TopicOperator
