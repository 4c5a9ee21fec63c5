import Mathlib.Data.List.DropRight
import TopicOperator.Json.Writer
import TopicOperator.Proofs.Json.Placeless
import TopicOperator.Proofs.Number.Decimal
import TopicOperator.Text.Bytes

/-!
# Scanning written texts and numbers

A scan of a written text or number puts its draft in the place of the value.  That a number ends shows
only at the character behind it, so what is said of a written part is said of the rest of the document
as well.  Of a floating-point number the scan yields the literal that it is written as.
-/

namespace TopicOperator.Json

namespace Scan

open Number Draft Text

variable {stack : List Frame} {start i : Nat} {rest : List Char}

/-- The document that comes of a state and the characters behind it. -/
def outcome (state : State) (cs : List Char) : Document :=
  (cs.foldl step state).close

theorem outcome_append (state : State) (first rest : List Char) :
    outcome state (first ++ rest) = outcome (first.foldl step state) rest := by
  rw [outcome, List.foldl_append, outcome]

-- Below a single character is followed by computing what it does to the position.
attribute [local simp] step advance textChar numberChar

section Text

variable {asName : Bool} {done : List Char}

theorem hexValue?_hexDigit {n : Nat} (h : n < 16) : hexValue? (hexDigit n) = some n := by
  have hall : ∀ n < 16, hexValue? (hexDigit n) = some n := by decide
  exact hall n h

theorem step_hexDigit {n : Nat} (h : n < 16) :
    step ⟨⟨stack, .text { asName, start, characters := done, escape := .hex 2 0 none }⟩, i⟩
        (hexDigit n) =
      ⟨⟨stack, .text { asName, start, characters := done, escape := .hex 3 (0 * 16 + n) none }⟩,
        i + (hexDigit n).utf8Size⟩ := by
  simp [hexValue?_hexDigit h]

/-- The last digit of an escape puts the character that is no surrogate. -/
theorem step_lastHexDigit {n value : Nat} (h : n < 16) (hvalue : value * 16 + n < 0xD800) :
    step ⟨⟨stack, .text { asName, start, characters := done, escape := .hex 3 value none }⟩, i⟩
        (hexDigit n) =
      ⟨⟨stack, .text
        { asName, start, characters := Char.ofNat (value * 16 + n) :: done }⟩,
        i + (hexDigit n).utf8Size⟩ := by
  have hhigh : ¬ 0xD800 ≤ value * 16 + n := by omega
  have hlow : ¬ 0xDC00 ≤ value * 16 + n := by omega
  simp [hexValue?_hexDigit h, Content.pushUnit, Content.push, hhigh, hlow]

/-- A written character is put to the text. -/
theorem foldl_writeChar (c : Char) :
    (writeChar c).foldl step ⟨⟨stack, .text { asName, start, characters := done }⟩, i⟩ =
      ⟨⟨stack, .text { asName, start, characters := c :: done }⟩, i + byteCount (writeChar c)⟩ := by
  unfold writeChar
  iterate 7
    split
    · next h =>
        rw [h]
        rfl
  split
  · next hcontrol =>
      -- The first two digits are zeros, the others spell the number of the character.
      have hvalue : (0 * 16 + c.toNat / 16) * 16 + c.toNat % 16 = c.toNat := by omega
      show step (step ⟨⟨stack, .text
        { asName, start, characters := done, escape := .hex 2 0 none }⟩, _⟩ _) _ = _
      rw [step_hexDigit (by omega), step_lastHexDigit (by omega) (by omega), hvalue,
        Char.ofNat_toNat]
      simp [byteCount, Nat.add_assoc]
  · next hquote hbackslash _ _ _ _ _ hcontrol =>
      simp [plainChar, hquote, hbackslash, hcontrol, Content.push, byteCount]

theorem foldl_writeText (cs : List Char) :
    (cs.flatMap writeChar).foldl step ⟨⟨stack, .text { asName, start, characters := done }⟩, i⟩ =
      ⟨⟨stack, .text { asName, start, characters := cs.reverse ++ done }⟩,
        i + byteCount (cs.flatMap writeChar)⟩ := by
  induction cs generalizing i done with
  | nil => rfl
  | cons c rest ih =>
      rw [List.flatMap_cons, List.foldl_append, foldl_writeChar, ih]
      simp [Nat.add_assoc]

/-- A written text ends at its quotation mark. -/
theorem outcome_writeText (s : String) :
    outcome ⟨⟨stack, .text { asName, start }⟩, i⟩ (s.toList.flatMap writeChar ++ '"' :: rest) =
      outcome ⟨endText stack { asName, start, characters := s.toList.reverse }
        (i + byteCount (s.toList.flatMap writeChar)),
        i + byteCount (s.toList.flatMap writeChar) + 1⟩ rest := by
  rw [outcome_append, foldl_writeText, List.append_nil]
  rfl

/-- A text that is a value is put in its place. -/
theorem endText_value (s : String) :
    endText stack { asName := false, start, characters := s.toList.reverse } i =
      deliver stack (.text (.whole s) ⟨start, i + 1⟩) := by
  cases stack with
  | nil => simp [endText]
  | cons frame frames => cases frame <;> simp [endText]

end Text

/-- Where a value may start: behind a bracket, or anywhere else. -/
inductive Opening : Position → Prop
  | value (afterComma : Bool) : Opening (.value afterComma)
  | firstItem : Opening .firstItem

theorem advance_opening {p : Position} (hp : Opening p) {c : Char} (hspace : isSpace c = false)
    (hclose : c ≠ ']') : advance ⟨stack, p⟩ i c = valueChar stack false i c := by
  cases hp with
  | value afterComma => simp [valueChar, hspace, hclose]
  | firstItem => simp [hspace, hclose]

section Number

/-- What a number may end at, besides the end of the document. -/
def EndsNumber : List Char → Prop
  | [] => True
  | c :: _ => c = ',' ∨ c = ']' ∨ c = '}'

/-- A number may end in these stages. -/
def Stage.IsLast (stage : Stage) : Prop :=
  stage = .zero ∨ stage = .whole ∨ stage = .fraction ∨ stage = .exponentDigits

/-- A value in its place is looked at once more with the character behind it. -/
theorem advance_deliver (d : Draft) (c : Char) :
    advance (deliver stack d) i c = behind (deliver stack d) i c := by
  cases stack with
  | nil => rfl
  | cons frame frames => cases frame <;> rfl

/-- A number is put in its place when it ends. -/
theorem outcome_number {stage : Stage} (hstage : stage.IsLast) (literal : Literal)
    (hrest : EndsNumber rest) :
    outcome ⟨⟨stack, .number start stage literal⟩, i⟩ rest =
      outcome ⟨deliver stack (.number literal ⟨start, i⟩), i⟩ rest := by
  cases rest with
  | nil =>
      cases stack with
      | nil => rcases hstage with rfl | rfl | rfl | rfl <;> rfl
      | cons frame frames => cases frame <;> rcases hstage with rfl | rfl | rfl | rfl <;> rfl
  | cons c cs =>
      have hstep : step ⟨⟨stack, .number start stage literal⟩, i⟩ c =
          step ⟨deliver stack (.number literal ⟨start, i⟩), i⟩ c := by
        rw [step, step, advance_deliver]
        rcases hrest with rfl | rfl | rfl <;> rcases hstage with rfl | rfl | rfl | rfl <;> rfl
      rw [outcome, outcome, List.foldl_cons, List.foldl_cons, hstep]

/-- The values of decimal digits. -/
def AreDigits (cs : List Char) : Prop := ∀ c ∈ cs, ∃ d < 10, c = digitChar d

/-- A stage that lasts as long as digits come, and what they put to the literal. -/
structure Stage.Takes (stage : Stage) (put : Literal → List Nat → Literal) : Prop where
  nil : ∀ literal, put literal [] = literal
  cons : ∀ literal d ds, put (put literal [d]) ds = put literal (d :: ds)
  digit : ∀ (stack : List Frame) (start i : Nat) (literal : Literal) (c : Char) (d : Nat),
    digitValue? c = some d →
    advance ⟨stack, .number start stage literal⟩ i c =
      ⟨stack, .number start stage (put literal [d])⟩

theorem foldl_digits {stage : Stage} {put : Literal → List Nat → Literal} (h : stage.Takes put)
    {cs : List Char} (hcs : AreDigits cs) (literal : Literal) :
    cs.foldl step ⟨⟨stack, .number start stage literal⟩, i⟩ =
      ⟨⟨stack, .number start stage (put literal (Literal.digitsOf cs))⟩, i + byteCount cs⟩ := by
  induction cs generalizing i literal with
  | nil =>
      rw [Literal.digitsOf, List.filterMap_nil, h.nil]
      rfl
  | cons c rest ih =>
      obtain ⟨⟨d, hd, rfl⟩, hrest⟩ := List.forall_mem_cons.1 hcs
      have hvalue := digitValue?_digitChar hd
      rw [List.foldl_cons, step, h.digit _ _ _ _ _ d hvalue, ih hrest]
      simp [Literal.digitsOf, hvalue, h.cons, byteCount, Nat.add_assoc]

theorem takes_whole :
    Stage.Takes .whole fun literal ds => { literal with whole := literal.whole ++ ds } where
  nil := by simp
  cons := by simp
  digit _ _ _ _ _ _ h := by simp [h]

theorem takes_fraction :
    Stage.Takes .fraction fun literal ds => { literal with fraction := literal.fraction ++ ds } where
  nil := by simp
  cons := by simp
  digit _ _ _ _ _ _ h := by simp [h]

theorem takes_exponent : Stage.Takes .exponentDigits fun literal ds => ds.foldl exponentDigit literal where
  nil _ := rfl
  cons _ _ _ := rfl
  digit _ _ _ _ _ _ h := by simp [h]

theorem isSpace_digitChar {d : Nat} (h : d < 10) : isSpace (digitChar d) = false := by
  have hall : ∀ d < 10, isSpace (digitChar d) = false := by decide
  exact hall d h

theorem valueChar_digitChar {d : Nat} (h : d < 10) :
    valueChar stack false i (digitChar d) = numberStart stack i false i (digitChar d) := by
  have hall : ∀ d < 10, digitChar d ∉ [' ', '"', '[', '{', 'n', 't', 'f', '-'] := by decide
  have hother := hall d h
  simp only [List.mem_cons, not_or] at hother
  simp [valueChar, isSpace_digitChar h, hother, digitValue?_digitChar h]

/-- Digits that may stand in front of the point: at least one, and no zero before another one. -/
def AreWhole : List Char → Prop
  | [] => False
  | first :: others => AreDigits (first :: others) ∧ (first = '0' → others = [])

/-- Characters with a sign in front of them. -/
def withSign (negative : Bool) (cs : List Char) : List Char :=
  if negative then '-' :: cs else cs

theorem withSign_append (negative : Bool) (first second : List Char) :
    withSign negative (first ++ second) = withSign negative first ++ second := by
  cases negative <;> rfl

/-- The digits in front of the point. -/
theorem outcome_whole {p : Position} (hp : Opening p) {whole : List Char} (hwhole : AreWhole whole)
    (negative : Bool) :
    ∃ j stage, (stage = .zero ∨ stage = .whole) ∧
      outcome ⟨⟨stack, p⟩, i⟩ (withSign negative whole ++ rest) =
        outcome ⟨⟨stack, .number i stage { negative, whole := Literal.digitsOf whole }⟩, j⟩ rest := by
  obtain - | ⟨first, others⟩ := whole
  · exact hwhole.elim
  obtain ⟨hdigits, hzero⟩ := hwhole
  obtain ⟨⟨d, hd, rfl⟩, hothers⟩ := List.forall_mem_cons.1 hdigits
  have hvalue := digitValue?_digitChar hd
  -- Behind the first digit nothing depends on the sign but the literal.
  have hbehind (here k : Nat) : ∃ j stage, (stage = .zero ∨ stage = .whole) ∧
      outcome ⟨numberStart stack i negative here (digitChar d), k⟩ (others ++ rest) =
        outcome ⟨⟨stack, .number i stage
          { negative, whole := Literal.digitsOf (digitChar d :: others) }⟩, j⟩ rest := by
    by_cases hfirst : d = 0
    · subst hfirst
      obtain rfl := hzero rfl
      exact ⟨k, .zero, .inl rfl, rfl⟩
    · refine ⟨k + byteCount others, .whole, .inr rfl, ?_⟩
      simp only [numberStart, hvalue, if_neg hfirst]
      rw [outcome_append, foldl_digits takes_whole hothers]
      simp [Literal.digitsOf, hvalue]
  cases negative with
  | true =>
      obtain ⟨j, stage, hstage, h⟩ := hbehind (i + 1) (i + 1 + (digitChar d).utf8Size)
      refine ⟨j, stage, hstage, Eq.trans ?_ h⟩
      show outcome (step (step ⟨⟨stack, p⟩, i⟩ '-') (digitChar d)) (others ++ rest) = _
      have hsign : step ⟨⟨stack, p⟩, i⟩ '-' =
          ⟨⟨stack, .number i .start { negative := true, whole := [] }⟩, i + 1⟩ := by
        rw [step, advance_opening hp rfl (by decide)]
        rfl
      rw [hsign]
      rfl
  | false =>
      obtain ⟨j, stage, hstage, h⟩ := hbehind i (i + (digitChar d).utf8Size)
      refine ⟨j, stage, hstage, Eq.trans ?_ h⟩
      show outcome (step ⟨⟨stack, p⟩, i⟩ (digitChar d)) (others ++ rest) = _
      have hclose : ∀ d < 10, digitChar d ≠ ']' := by decide
      rw [step, advance_opening hp (isSpace_digitChar hd) (hclose d hd), valueChar_digitChar hd]

/-- The digits behind the point. -/
theorem outcome_fraction {stage : Stage} (hstage : stage = .zero ∨ stage = .whole) {first : Char}
    {others : List Char} (hdigits : AreDigits (first :: others)) (literal : Literal)
    (hnone : literal.fraction = []) :
    ∃ j, outcome ⟨⟨stack, .number start stage literal⟩, i⟩ ('.' :: first :: others ++ rest) =
      outcome ⟨⟨stack, .number start .fraction
        { literal with fraction := Literal.digitsOf (first :: others) }⟩, j⟩ rest := by
  obtain ⟨⟨d, hd, rfl⟩, hothers⟩ := List.forall_mem_cons.1 hdigits
  have hvalue := digitValue?_digitChar hd
  have hpoint : step ⟨⟨stack, .number start stage literal⟩, i⟩ '.' =
      ⟨⟨stack, .number start .point literal⟩, i + 1⟩ := by
    rcases hstage with rfl | rfl <;> rfl
  have hfirst : step ⟨⟨stack, .number start .point literal⟩, i + 1⟩ (digitChar d) =
      ⟨⟨stack, .number start .fraction { literal with fraction := [d] }⟩,
        i + 1 + (digitChar d).utf8Size⟩ := by
    simp [hvalue, hnone]
  refine ⟨i + 1 + (digitChar d).utf8Size + byteCount others, ?_⟩
  show outcome (step (step ⟨⟨stack, .number start stage literal⟩, i⟩ '.') (digitChar d))
    (others ++ rest) = _
  rw [hpoint, hfirst, outcome_append, foldl_digits takes_fraction hothers]
  simp [Literal.digitsOf, hvalue]

theorem foldl_exponentDigit (literal : Literal) (negative : Bool) (digits more : List Nat) :
    more.foldl exponentDigit { literal with exponent := some (negative, digits) } =
      { literal with exponent := some (negative, digits ++ more) } := by
  induction more generalizing digits with
  | nil => simp
  | cons d rest ih =>
      rw [List.foldl_cons, exponentDigit]
      dsimp only
      rw [ih]
      simp

/-- The exponent behind the digits. -/
theorem outcome_exponent {stage : Stage}
    (hstage : stage = .zero ∨ stage = .whole ∨ stage = .fraction) (literal : Literal)
    (hnone : literal.exponent = none) (power : Int) :
    ∃ j, outcome ⟨⟨stack, .number start stage literal⟩, i⟩
        ('e' :: Binary64.exponentDigits power ++ rest) =
      outcome ⟨⟨stack, .number start .exponentDigits { literal with
        exponent := some (decide (power < 0), Literal.digitsOf (decimalDigits power.natAbs)) }⟩, j⟩
        rest := by
  obtain ⟨first, others, hdigits, -⟩ := exists_decimalDigits power.natAbs
  have hall : AreDigits (first :: others) := by
    rw [← hdigits]
    exact fun c hc => isDigit_of_mem_decimalDigits hc
  obtain ⟨⟨d, hd, rfl⟩, hothers⟩ := List.forall_mem_cons.1 hall
  have hvalue := digitValue?_digitChar hd
  have hletter : step ⟨⟨stack, .number start stage literal⟩, i⟩ 'e' =
      ⟨⟨stack, .number start .exponent literal⟩, i + 1⟩ := by
    rcases hstage with rfl | rfl | rfl <;> rfl
  -- A minus sign is kept with no digits behind it, a plus sign is not kept.
  have hfirst : ∃ c, Binary64.exponentDigits power = c :: digitChar d :: others ∧
      step (step ⟨⟨stack, .number start .exponent literal⟩, i + 1⟩ c) (digitChar d) =
        ⟨⟨stack, .number start .exponentDigits
          { literal with exponent := some (decide (power < 0), [d]) }⟩,
          i + 1 + 1 + (digitChar d).utf8Size⟩ := by
    rw [Binary64.exponentDigits, hdigits]
    refine ⟨_, rfl, ?_⟩
    by_cases hpower : power < 0
    · have hsign : digitValue? '-' = none := by decide
      simp [hvalue, exponentDigit, hpower, hsign]
      rfl
    · have hsign : digitValue? '+' = none := by decide
      simp [hvalue, exponentDigit, hpower, hsign, hnone]
      rfl
  obtain ⟨c, htext, hstep⟩ := hfirst
  refine ⟨i + 1 + 1 + (digitChar d).utf8Size + byteCount others, ?_⟩
  rw [htext]
  show outcome (step (step (step ⟨⟨stack, .number start stage literal⟩, i⟩ 'e') c) (digitChar d))
    (others ++ rest) = _
  rw [hletter, hstep, outcome_append, foldl_digits takes_exponent hothers, foldl_exponentDigit,
    hdigits]
  simp [Literal.digitsOf, hvalue]

/-- A number with a point and no exponent. -/
theorem outcome_pointed {p : Position} (hp : Opening p) (hrest : EndsNumber rest) (negative : Bool)
    {whole fraction : List Char} (hwhole : AreWhole whole) (hfraction : AreDigits fraction)
    (hne : fraction ≠ []) :
    ∃ extent j, outcome ⟨⟨stack, p⟩, i⟩ (withSign negative (whole ++ '.' :: fraction) ++ rest) =
      outcome ⟨deliver stack (.number
        { negative, whole := Literal.digitsOf whole, fraction := Literal.digitsOf fraction }
        extent), j⟩ rest := by
  obtain ⟨first, others, rfl⟩ := List.exists_cons_of_ne_nil hne
  rw [withSign_append, List.append_assoc]
  obtain ⟨j, stage, hstage, hfront⟩ := outcome_whole hp hwhole negative
  rw [hfront]
  obtain ⟨k, hbehind⟩ := outcome_fraction hstage hfraction
    { negative, whole := Literal.digitsOf whole } rfl
  rw [hbehind]
  exact ⟨_, _, outcome_number (.inr (.inr (.inl rfl))) _ hrest⟩

/-- A number with an exponent. -/
theorem outcome_exponential {p : Position} (hp : Opening p) (hrest : EndsNumber rest)
    (negative : Bool) {first : Char} {others : List Char} (hdigits : AreDigits (first :: others))
    (point : Int) :
    ∃ extent j, outcome ⟨⟨stack, p⟩, i⟩
        (withSign negative (Binary64.exponential (first :: others) point) ++ rest) =
      outcome ⟨deliver stack (.number (Literal.exponential negative (first :: others) point) extent),
        j⟩ rest := by
  have hwhole : AreWhole [first] := ⟨fun c hc => hdigits c (by simp_all), fun _ => rfl⟩
  cases others with
  | nil =>
      show ∃ extent j, outcome _
        (withSign negative ([first] ++ 'e' :: Binary64.exponentDigits (point - 1)) ++ rest) = _
      rw [withSign_append, List.append_assoc]
      obtain ⟨j, stage, hstage, hfront⟩ := outcome_whole hp hwhole negative
      rw [hfront]
      obtain ⟨k, hbehind⟩ := outcome_exponent (hstage.imp_right .inl)
        { negative, whole := Literal.digitsOf [first] } rfl (point - 1)
      rw [hbehind]
      exact ⟨_, _, outcome_number (.inr (.inr (.inr rfl))) _ hrest⟩
  | cons second others =>
      have hfraction : AreDigits (second :: others) := (List.forall_mem_cons.1 hdigits).2
      show ∃ extent j, outcome _ (withSign negative
        ([first] ++ ('.' :: second :: others ++ 'e' :: Binary64.exponentDigits (point - 1))) ++
          rest) = _
      rw [withSign_append, List.append_assoc, List.append_assoc]
      obtain ⟨j, stage, hstage, hfront⟩ := outcome_whole hp hwhole negative
      rw [hfront]
      obtain ⟨k, hmiddle⟩ := outcome_fraction hstage hfraction
        { negative, whole := Literal.digitsOf [first] } rfl
      rw [hmiddle]
      obtain ⟨l, hbehind⟩ := outcome_exponent (.inr (.inr rfl))
        { negative
          whole := Literal.digitsOf [first]
          fraction := Literal.digitsOf (second :: others) } rfl (point - 1)
      rw [hbehind]
      exact ⟨_, _, outcome_number (.inr (.inr (.inr rfl))) _ hrest⟩

theorem areWhole_decimalDigits (n : Nat) : AreWhole (decimalDigits n) := by
  obtain ⟨first, others, hdigits, hzero⟩ := exists_decimalDigits n
  have hall : AreDigits (decimalDigits n) := fun c hc => isDigit_of_mem_decimalDigits hc
  rw [hdigits] at hall ⊢
  refine ⟨hall, fun hfirst => ?_⟩
  rw [hzero hfirst, decimalDigits] at hdigits
  exact (List.cons.inj hdigits).2.symm

/-- A written integer. -/
theorem outcome_integer {p : Position} (hp : Opening p) (hrest : EndsNumber rest) (n : Int) :
    ∃ extent j, outcome ⟨⟨stack, p⟩, i⟩ (signedDigits n ++ rest) =
      outcome ⟨deliver stack (.number (.ofInteger n) extent), j⟩ rest := by
  have hsigned : signedDigits n = withSign (decide (n < 0)) (decimalDigits n.natAbs) := by
    by_cases h : n < 0 <;> simp [signedDigits, withSign, h]
  rw [hsigned]
  obtain ⟨j, stage, hstage, hfront⟩ :=
    outcome_whole hp (areWhole_decimalDigits n.natAbs) (decide (n < 0))
  rw [hfront]
  exact ⟨_, _, outcome_number (hstage.imp_right .inl) _ hrest⟩

/-- The digits of a floating-point number, if any are found, start with one that is not zero. -/
theorem shortest_digits (x : Binary64) (h : x.shortest.1 ≠ []) :
    ∃ first others, x.shortest.1 = first :: others ∧ AreDigits (first :: others) ∧ first ≠ '0' := by
  have hdropped : ∃ n, x.shortest.1 = Binary64.dropZeroEnd (decimalDigits n) := by
    unfold Binary64.shortest at h ⊢
    dsimp only at h ⊢
    split at h
    · exact absurd rfl h
    · next n count _ => exact ⟨n, by simp_all⟩
  obtain ⟨n, hdropped⟩ := hdropped
  obtain ⟨first, others, hshort⟩ := List.exists_cons_of_ne_nil h
  rw [hshort] at hdropped ⊢
  have hfront : first :: others <+: decimalDigits n := by
    rw [hdropped]
    exact List.rdropWhile_prefix _ _
  refine ⟨first, others, rfl, fun c hc => isDigit_of_mem_decimalDigits (hfront.subset hc), ?_⟩
  -- A zero in front would be all of the digits, and zeros at the end are dropped.
  rintro rfl
  obtain ⟨first, more, hdigits, hzero⟩ := exists_decimalDigits n
  rw [hdigits, List.cons_prefix_cons] at hfront
  rw [hzero hfront.1.symm, decimalDigits] at hdropped
  cases hdropped

/-- A number that is written without an exponent has digits on both sides of the point. -/
theorem exists_positional (negative : Bool) {first : Char} {others : List Char}
    (hdigits : AreDigits (first :: others)) (hfirst : first ≠ '0') (point : Int) :
    ∃ whole fraction,
      Binary64.positional (first :: others) point = whole ++ '.' :: fraction ∧
        Literal.positional negative (first :: others) point =
          { negative, whole := Literal.digitsOf whole, fraction := Literal.digitsOf fraction } ∧
        AreWhole whole ∧ AreDigits fraction ∧ fraction ≠ [] := by
  have hzeros (n : Nat) : AreDigits (List.replicate n '0') := fun c hc =>
    ⟨0, by decide, List.eq_of_mem_replicate hc⟩
  unfold Binary64.positional Literal.positional
  dsimp only
  split
  · -- All digits stand behind the point.
    exact ⟨['0'], _, rfl, rfl, ⟨hzeros 1, fun _ => rfl⟩,
      List.forall_mem_append.2 ⟨hzeros _, hdigits⟩, by simp⟩
  split
  · -- All digits, and maybe more zeros, stand in front of the point.
    refine ⟨_, ['0'], rfl, rfl, ⟨?_, fun h => absurd h hfirst⟩, hzeros 1, by simp⟩
    exact List.forall_mem_append.2 ⟨hdigits, hzeros _⟩
  · next hpositive hshort =>
      obtain ⟨n, hn⟩ : ∃ n, point.toNat = n + 1 := ⟨point.toNat - 1, by omega⟩
      rw [hn] at hshort ⊢
      have hbehind : (first :: others).drop (n + 1) ≠ [] := by
        simpa [List.drop_eq_nil_iff] using hshort
      refine ⟨_, _, rfl, rfl, ⟨?_, fun h => absurd h hfirst⟩, ?_, hbehind⟩
      · exact fun c hc => hdigits c (List.mem_of_mem_take (i := n + 1) hc)
      · exact fun c hc => hdigits c (List.mem_of_mem_drop hc)

/-- A number that is written without an exponent. -/
theorem outcome_positional {p : Position} (hp : Opening p) (hrest : EndsNumber rest)
    (negative : Bool) {first : Char} {others : List Char} (hdigits : AreDigits (first :: others))
    (hfirst : first ≠ '0') (point : Int) :
    ∃ extent j, outcome ⟨⟨stack, p⟩, i⟩
        (withSign negative (Binary64.positional (first :: others) point) ++ rest) =
      outcome ⟨deliver stack (.number (Literal.positional negative (first :: others) point) extent),
        j⟩ rest := by
  obtain ⟨whole, fraction, htext, hliteral, hwhole, hfraction, hne⟩ :=
    exists_positional negative hdigits hfirst point
  rw [htext, hliteral]
  exact outcome_pointed hp hrest negative hwhole hfraction hne

/-- A floating-point number that has digits to be written with. -/
def IsSpelled (x : Binary64) : Prop := x.isZero = true ∨ x.shortest.1 ≠ []

/-- A written floating-point number. -/
theorem outcome_real {p : Position} (hp : Opening p) (hrest : EndsNumber rest) {x : Binary64}
    (hx : IsSpelled x) :
    ∃ extent j, outcome ⟨⟨stack, p⟩, i⟩ (x.text.toList ++ rest) =
      outcome ⟨deliver stack (.number (.ofReal x) extent), j⟩ rest := by
  by_cases hisZero : x.isZero = true
  · have hzero : AreDigits ['0'] := fun c hc => ⟨0, by decide, List.mem_singleton.1 hc⟩
    have htext : x.text.toList = withSign x.negative (['0'] ++ '.' :: ['0']) := by
      simp [Binary64.text, Binary64.signed, withSign, hisZero]
    rw [htext, Literal.ofReal, if_pos hisZero]
    exact outcome_pointed hp hrest x.negative ⟨hzero, fun _ => rfl⟩ hzero (by simp)
  · obtain ⟨first, others, hdigits, hall, hfirst⟩ :=
      shortest_digits x (hx.resolve_left hisZero)
    rcases hshort : x.shortest with ⟨digits, point⟩
    rw [hshort] at hdigits
    dsimp only at hdigits
    subst hdigits
    by_cases hnear : -5 < point ∧ point ≤ 16
    · have htext : x.text.toList =
          withSign x.negative (Binary64.positional (first :: others) point) := by
        simp [Binary64.text, Binary64.signed, withSign, hisZero, hshort, hnear]
      have hliteral : Literal.ofReal x = Literal.positional x.negative (first :: others) point := by
        simp [Literal.ofReal, hisZero, hshort, hnear]
      rw [htext, hliteral]
      exact outcome_positional hp hrest x.negative hall hfirst point
    · have htext : x.text.toList =
          withSign x.negative (Binary64.exponential (first :: others) point) := by
        simp [Binary64.text, Binary64.signed, withSign, hisZero, hshort, hnear]
      have hliteral : Literal.ofReal x = Literal.exponential x.negative (first :: others) point := by
        simp [Literal.ofReal, hisZero, hshort, hnear]
      rw [htext, hliteral]
      exact outcome_exponential hp hrest x.negative hall point

end Number

end Scan

end TopicOperator.Json
