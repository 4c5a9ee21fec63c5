import Mathlib.Algebra.GroupWithZero.Nat
import TopicOperator.Time.Calendar

/-!
# The calendar and its count of days

A day has one date.  The year of a day is the one between whose starts the day lies, the lengths of
the months cut a year without gaps, and so the date of a day is a date of the calendar and is counted
as that day.
-/

namespace TopicOperator.Date

/-- The start of a year is less than two years away from where the mean length of a year puts it. -/
theorem daysBefore_near (year : Int) :
    146097 * year - 396 ≤ 400 * daysBefore year ∧
      400 * daysBefore year ≤ 146097 * year + 699 := by
  unfold daysBefore
  constructor <;> omega

/-- The years follow each other without gaps: a day lies between the starts of its year and of the
next one. -/
theorem daysBefore_yearOf (n : Int) :
    daysBefore (yearOf n) ≤ n ∧ n < daysBefore (yearOf n + 1) := by
  unfold yearOf
  dsimp only
  have hbefore := daysBefore_near (n * 400 / 146097 - 1)
  have hafter := daysBefore_near (n * 400 / 146097 + 1 + 1)
  split
  · rw [Int.sub_add_cancel]
    constructor <;> omega
  · split <;> constructor <;> omega

/-- A year has a leap day if four divides it, but hundred does not unless four hundred does. -/
theorem isLeap_iff (year : Int) :
    isLeap year = true ↔ year % 4 = 0 ∧ (year % 100 ≠ 0 ∨ year % 400 = 0) := by
  simp [isLeap]

/-- A year has as many days as lie between its start and that of the next one. -/
theorem daysBefore_succ (year : Int) :
    daysBefore (year + 1) - daysBefore year = if isLeap year then 366 else 365 := by
  -- A quotient grows with the next year exactly if that year starts a new period.
  have hfour : (year + 1 + 3) / 4 - (year + 3) / 4 = if year % 4 = 0 then 1 else 0 := by
    split <;> omega
  have hhundred : (year + 1 + 99) / 100 - (year + 99) / 100 = if year % 100 = 0 then 1 else 0 := by
    split <;> omega
  have hlong : (year + 1 + 399) / 400 - (year + 399) / 400 = if year % 400 = 0 then 1 else 0 := by
    split <;> omega
  have hsplit : daysBefore (year + 1) - daysBefore year =
      365 + ((year + 1 + 3) / 4 - (year + 3) / 4) - ((year + 1 + 99) / 100 - (year + 99) / 100) +
        ((year + 1 + 399) / 400 - (year + 399) / 400) := by
    unfold daysBefore
    omega
  have hwithin : (year % 400 = 0 → year % 100 = 0) ∧ (year % 100 = 0 → year % 4 = 0) := by
    constructor <;> omega
  rw [hsplit, hfour, hhundred, hlong]
  simp only [isLeap_iff]
  by_cases h4 : year % 4 = 0 <;> by_cases h100 : year % 100 = 0 <;>
    by_cases h400 : year % 400 = 0 <;> simp_all

/-- The months of a year are as many days as the year. -/
theorem sum_monthLengths (year : Int) :
    ((monthLengths year).sum : Int) = daysBefore (year + 1) - daysBefore year := by
  rw [daysBefore_succ]
  cases h : isLeap year <;> simp [monthLengths, h]

/-- The days of whole months as they are counted. -/
def wholeMonths (lengths : List Nat) (month : Nat) : Nat :=
  (lengths.take (month - 1)).foldl (· + ·) 0

theorem wholeMonths_succ (length : Nat) (rest : List Nat) (months : Nat) :
    wholeMonths (length :: rest) (months + 1 + 1) = length + wholeMonths rest (months + 1) := by
  simp only [wholeMonths, Nat.add_sub_cancel, List.take_succ_cons, ← List.sum_eq_foldl,
    List.sum_cons]

/-- A day of a year is a day of one of its months, and is counted as the day that it is. -/
theorem splitMonth_spec (lengths : List Nat) {n : Nat} (h : n < lengths.sum) :
    ∃ months day length, splitMonth lengths n = (months + 1, day) ∧ 1 ≤ day ∧
      lengths[months]? = some length ∧ day ≤ length ∧
      wholeMonths lengths (months + 1) + day = n + 1 := by
  induction lengths generalizing n with
  | nil => simp at h
  | cons length rest ih =>
      rw [splitMonth]
      split
      · next hin => exact ⟨0, n + 1, length, rfl, by omega, rfl, hin, by simp [wholeMonths]⟩
      · next hout =>
          rw [List.sum_cons] at h
          obtain ⟨months, day, found, hsplit, hfirst, hfound, hle, hcount⟩ :=
            ih (n := n - length) (by omega)
          refine ⟨months + 1, day, found, by rw [hsplit], hfirst, hfound, hle, ?_⟩
          rw [wholeMonths_succ]
          omega

/-- The parts of the date of a day, as they are found and counted. -/
theorem ofDay_spec (n : Int) :
    ∃ months day length, ofDay n = ⟨yearOf (n + epoch), months + 1, day⟩ ∧ 1 ≤ day ∧
      (monthLengths (yearOf (n + epoch)))[months]? = some length ∧ day ≤ length ∧
      daysBefore (yearOf (n + epoch)) +
        wholeMonths (monthLengths (yearOf (n + epoch))) (months + 1) + day = n + epoch + 1 := by
  obtain ⟨hstart, hnext⟩ := daysBefore_yearOf (n + epoch)
  have hsum := sum_monthLengths (yearOf (n + epoch))
  have hday : (n + epoch - daysBefore (yearOf (n + epoch))).toNat <
      (monthLengths (yearOf (n + epoch))).sum := by omega
  obtain ⟨months, day, length, hsplit, hfirst, hlength, hle, hcount⟩ := splitMonth_spec _ hday
  refine ⟨months, day, length, ?_, hfirst, hlength, hle, by omega⟩
  simp only [ofDay, hsplit]

/-- The date of a day is a date of the calendar. -/
theorem isValid_ofDay (n : Int) : (ofDay n).isValid = true := by
  obtain ⟨months, day, length, hdate, hfirst, hlength, hle, -⟩ := ofDay_spec n
  rw [hdate]
  simp [isValid, hfirst, hlength, hle]

/-- The date of a day is counted as that day. -/
theorem toDay_ofDay (n : Int) : (ofDay n).toDay = n := by
  obtain ⟨months, day, length, hdate, -, -, -, hcount⟩ := ofDay_spec n
  rw [hdate]
  show daysBefore (yearOf (n + epoch)) +
    (wholeMonths (monthLengths (yearOf (n + epoch))) (months + 1) : Nat) + day - 1 - epoch = n
  omega

/-- A day from the start of the year zero on has no negative year. -/
theorem yearOf_nonneg {n : Int} (h : 0 ≤ n) : 0 ≤ yearOf n := by
  obtain ⟨-, hnext⟩ := daysBefore_yearOf n
  refine Int.not_lt.1 fun hnegative => ?_
  have hbefore : daysBefore (yearOf n + 1) ≤ 0 := by
    unfold daysBefore
    omega
  omega

/-- Only such a day has no negative year. -/
theorem nonneg_of_yearOf {n : Int} (h : 0 ≤ yearOf n) : 0 ≤ n := by
  obtain ⟨hstart, -⟩ := daysBefore_yearOf n
  have hbefore : 0 ≤ daysBefore (yearOf n) := by
    unfold daysBefore
    omega
  omega

/-- A day before the start of the year ten thousand has a year of four digits. -/
theorem yearOf_lt {n : Int} (h : n < daysBefore 10000) : yearOf n < 10000 := by
  obtain ⟨hstart, -⟩ := daysBefore_yearOf n
  refine Int.not_le.1 fun hlate => ?_
  have hafter : daysBefore 10000 ≤ daysBefore (yearOf n) := by
    unfold daysBefore
    omega
  omega

/-- The months of a date of the calendar are numbered up to twelve, and its days up to thirty-one. -/
theorem bounds_of_isValid {date : Date} (h : date.isValid = true) :
    1 ≤ date.month ∧ date.month ≤ 12 ∧ 1 ≤ date.day ∧ date.day ≤ 31 := by
  simp only [isValid, Bool.and_eq_true, decide_eq_true_eq] at h
  obtain ⟨⟨hmonth, hday⟩, hlength⟩ := h
  cases hfound : (monthLengths date.year)[date.month - 1]? with
  | none => simp [hfound] at hlength
  | some length =>
      have hle : date.day ≤ length := by simpa [hfound] using hlength
      obtain ⟨hplace, hget⟩ := List.getElem?_eq_some_iff.1 hfound
      have hmem : length ∈ monthLengths date.year := by
        rw [← hget]
        exact List.getElem_mem hplace
      have hlong : length ≤ 31 := by
        simp only [monthLengths, List.mem_cons, List.not_mem_nil, or_false] at hmem
        split at hmem <;> omega
      have htwelve : (monthLengths date.year).length = 12 := rfl
      exact ⟨hmonth, by omega, hday, by omega⟩

end TopicOperator.Date
