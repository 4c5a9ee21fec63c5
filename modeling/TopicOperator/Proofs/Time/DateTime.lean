import TopicOperator.Proofs.Number.Numeral
import TopicOperator.Proofs.Time.Stamp

/-!
# Date-times

The texts that a schema means by the format `date-time`: a date of the calendar with a year of four
digits, a time of the day that may have a fraction, and a zone.  What is written of an instant is a
date-time just if its year has up to four digits and no sign.  Of the instants that a time stamp can
name these are the legible ones.
-/

namespace TopicOperator

namespace DateTime

open Number

/-- Digits of a fixed count that spell a number. -/
structure Spells (count n : Nat) (cs : List Char) : Prop where
  length : cs.length = count
  digits : ∀ c ∈ cs, IsDigit c
  value : placeValue cs = n

/-- A date of the calendar. -/
inductive IsDate : List Char → Prop
  | mk {year month day : Nat} {y m d : List Char} (hyear : Spells 4 year y)
      (hmonth : Spells 2 month m) (hday : Spells 2 day d)
      (hvalid : Date.isValid ⟨year, month, day⟩ = true) : IsDate (y ++ '-' :: (m ++ '-' :: d))

/-- A time of the day to the second. -/
inductive IsClock : List Char → Prop
  | mk {hour minute second : Nat} {h m s : List Char} (hhour : Spells 2 hour h)
      (hminute : Spells 2 minute m) (hsecond : Spells 2 second s) (hday : hour < 24)
      (hlong : minute < 60) (hshort : second < 60) : IsClock (h ++ ':' :: (m ++ ':' :: s))

/-- A fraction of a second, or none. -/
inductive IsFraction : List Char → Prop
  | none : IsFraction []
  | some {digits : List Char} (h : AreDigits digits) : IsFraction ('.' :: digits)

/-- UTC or an offset from it. -/
inductive IsZone : List Char → Prop
  | utc {c : Char} (h : c ∈ ['Z', 'z']) : IsZone [c]
  | offset {sign : Char} {hour minute : Nat} {h m : List Char} (hsign : sign ∈ ['+', '-'])
      (hhour : Spells 2 hour h) (hminute : Spells 2 minute m) (hday : hour < 24)
      (hlong : minute < 60) : IsZone (sign :: (h ++ ':' :: m))

end DateTime

/-- A text that is a date-time. -/
inductive IsDateTime (s : String) : Prop
  | mk {date clock fraction zone : List Char} {separator : Char}
      (hparts : s.toList = date ++ separator :: (clock ++ (fraction ++ zone)))
      (hdate : DateTime.IsDate date) (hseparator : separator ∈ ['T', 't'])
      (hclock : DateTime.IsClock clock) (hfraction : DateTime.IsFraction fraction)
      (hzone : DateTime.IsZone zone)

namespace DateTime

open Number

theorem placeValue_zeros (count : Nat) : placeValue (List.replicate count '0') = 0 := by
  induction count with
  | zero => rfl
  | succ count ih => rw [List.replicate_succ, placeValue, ih, Nat.sub_self, Nat.zero_mul]

theorem isDigit_of_mem_paddedDigits (width n : Nat) : ∀ c ∈ paddedDigits width n, IsDigit c := by
  intro c hc
  rcases List.mem_append.1 hc with hzero | hmem
  · rw [List.eq_of_mem_replicate hzero]
    decide
  · exact (areDigits_decimalDigits n).digits c hmem

theorem placeValue_paddedDigits (width n : Nat) : placeValue (paddedDigits width n) = n := by
  rw [paddedDigits, placeValue_append, placeValue_zeros, placeValue_decimalDigits, Nat.zero_mul,
    Nat.zero_add]

/-- Digits that were filled up to a width spell the number. -/
theorem spells_paddedDigits {width n : Nat} (hwidth : 1 ≤ width) (h : n < 10 ^ width) :
    Spells width n (paddedDigits width n) where
  length := Instant.Stamp.length_paddedDigits hwidth h
  digits := isDigit_of_mem_paddedDigits width n
  value := placeValue_paddedDigits width n

/-- What is written of a date in a year of up to four digits is a date. -/
theorem isDate_writeDate {d : Date} (hvalid : d.isValid = true) (hnonneg : 0 ≤ d.year)
    (hfour : d.year < 10000) : IsDate (Instant.writeDate d) := by
  obtain ⟨-, htwelve, -, hlong⟩ := Date.bounds_of_isValid hvalid
  have hyear : Spells 4 d.year.natAbs (Instant.writeYear d.year) := by
    rw [Instant.writeYear, if_neg (Int.not_lt.2 hnonneg)]
    exact spells_paddedDigits (by decide) (by omega)
  refine .mk hyear (spells_paddedDigits (by decide) (by omega))
    (spells_paddedDigits (by decide) (by omega)) ?_
  rw [Int.natAbs_of_nonneg hnonneg]
  exact hvalid

/-- What is written of a second of the day is a time of the day. -/
theorem isClock_writeClock {n : Nat} (h : n < 86400) : IsClock (Instant.writeClock n) :=
  .mk (spells_paddedDigits (by decide) (by omega)) (spells_paddedDigits (by decide) (by omega))
    (spells_paddedDigits (by decide) (by omega)) (by omega) (by omega) (by omega)

/-- The digits in front of a date are those of its year, of which there are four. -/
theorem length_takeWhile_of_isDate {date : List Char} (h : IsDate date) (rest : List Char) :
    ((date ++ rest).takeWhile IsDigit).length = 4 := by
  obtain ⟨hyear, -, -, -⟩ := h
  rw [List.append_assoc, List.takeWhile_append_of_pos fun c hc => decide_eq_true (hyear.digits c hc),
    List.cons_append, List.takeWhile_cons_of_neg (by decide), List.append_nil, hyear.length]

/-- The digits in front of what is written of a date are four only if its year has no sign and up to
four digits. -/
theorem year_of_takeWhile_writeDate {d : Date} {rest : List Char}
    (h : ((Instant.writeDate d ++ rest).takeWhile IsDigit).length = 4) :
    0 ≤ d.year ∧ d.year < 10000 := by
  rw [Instant.writeDate, List.append_assoc] at h
  constructor
  · refine Int.not_lt.1 fun hnegative => ?_
    rw [Instant.writeYear, if_pos hnegative, List.cons_append,
      List.takeWhile_cons_of_neg (by decide)] at h
    cases h
  · refine Int.not_le.1 fun hlong => ?_
    have hnonneg : ¬ d.year < 0 := by omega
    have hdigits := isDigit_of_mem_paddedDigits 4 d.year.natAbs
    rw [Instant.writeYear, if_neg hnonneg,
      List.takeWhile_append_of_pos fun c hc => decide_eq_true (hdigits c hc), List.cons_append,
      List.takeWhile_cons_of_neg (by decide), List.append_nil] at h
    -- Four digits are too few for the year.
    have hless := placeValue_lt hdigits
    rw [placeValue_paddedDigits, h] at hless
    omega

end DateTime

namespace Instant

/-- What is written of an instant is a date-time just if its year has no sign and up to four digits. -/
theorem isDateTime_write_iff {t : Instant} : IsDateTime t.write ↔
    0 ≤ (Date.ofDay (t.seconds / daySeconds)).year ∧
      (Date.ofDay (t.seconds / daySeconds)).year < 10000 := by
  constructor
  · rintro ⟨hparts, hdate, -⟩
    have hfour := DateTime.length_takeWhile_of_isDate hdate
    rw [write, String.toList_ofList] at hparts
    exact DateTime.year_of_takeWhile_writeDate (hparts ▸ hfour _)
  · rintro ⟨hnonneg, hfour⟩
    have hsecond : (t.seconds % daySeconds).toNat < 86400 := by
      unfold daySeconds
      omega
    have hdate := DateTime.isDate_writeDate (Date.isValid_ofDay (t.seconds / daySeconds)) hnonneg hfour
    have hzone : DateTime.IsZone ['Z'] := .utc List.mem_cons_self
    refine .mk ?_ hdate List.mem_cons_self (DateTime.isClock_writeClock hsecond) .none hzone
    rw [write, String.toList_ofList, List.nil_append]

/-- The legible instants are those that a time stamp can name and that are written as a date-time. -/
theorem isLegible_iff_isDateTime {t : Instant} : t.IsLegible ↔
    (firstSecond ≤ t.seconds ∧ t.seconds ≤ lastSecond) ∧ IsDateTime t.write := by
  rw [isLegible_iff, isDateTime_write_iff]

end Instant

end TopicOperator
