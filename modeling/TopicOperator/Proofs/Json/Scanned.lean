import TopicOperator.Proofs.Json.ScannedParts

/-!
# Scanning written values

A scan of the written form of a value yields the draft of this value, but for the places.  So reading
the text of a value is reading the value itself.
-/

namespace TopicOperator.Json

open Number

mutual

/-- The floating-point numbers in a value. -/
def reals : Json → List Binary64
  | .number (.real x) => [x]
  | .list items => itemReals items
  | .object members => memberReals members
  | .null | .bool _ | .number (.integer _) | .text _ => []

/-- The floating-point numbers in a list of values. -/
def itemReals : List Json → List Binary64
  | [] => []
  | item :: rest => reals item ++ itemReals rest

/-- The floating-point numbers in the values of members. -/
def memberReals : List (String × Json) → List Binary64
  | [] => []
  | (_, value) :: rest => reals value ++ memberReals rest

end

namespace Scan

open Draft Text

variable {stack : List Frame} {start i : Nat} {rest : List Char}

theorem endsNumber_writeItems (items : List Json) (rest : List Char) :
    EndsNumber (writeItems items rest) := by
  cases items with
  | nil => exact .inr (.inl rfl)
  | cons item others => exact .inl rfl

theorem endsNumber_writeMembers (members : List (String × Json)) (rest : List Char) :
    EndsNumber (writeMembers members rest) := by
  cases members with
  | nil => exact .inr (.inr rfl)
  | cons m others => exact .inl rfl

/-- The first character of a value. -/
theorem outcome_opening {p : Position} (hp : Opening p) {c : Char} (hspace : isSpace c = false)
    (hclose : c ≠ ']') (cs : List Char) :
    outcome ⟨⟨stack, p⟩, i⟩ (c :: cs) = outcome ⟨valueChar stack false i c, i + c.utf8Size⟩ cs := by
  rw [outcome, List.foldl_cons, step, advance_opening hp hspace hclose, outcome]

/-- A written name, with the colon behind it. -/
theorem outcome_writeName {members : List (Name × Draft)} (first : Bool) (name : String)
    (cs : List Char) :
    ∃ j k, outcome ⟨⟨.object start members :: stack, .name first⟩, i⟩ (writeText name (':' :: cs)) =
      outcome ⟨⟨.member start members { wording := .whole name, stop := j, next := j } :: stack,
        .value false⟩, k⟩ cs := by
  -- The second quotation mark is the byte `j`, the colon the one behind it.
  let j := i + 1 + byteCount (name.toList.flatMap writeChar)
  refine ⟨j + 1, j + 1 + 1, ?_⟩
  show outcome ⟨⟨.object start members :: stack, .text { asName := true, start := i }⟩, i + 1⟩
    (name.toList.flatMap writeChar ++ '"' :: ':' :: cs) = _
  have hname : endText (.object start members :: stack)
      { asName := true, start := i, characters := name.toList.reverse } j =
        ⟨.member start members { wording := .whole name, stop := j + 1 } :: stack, .colon⟩ := by
    simp [endText]
  rw [outcome_writeText, hname]
  rfl

mutual

/-- A written value is put in its place. -/
theorem outcome_writeThen : ∀ (value : Json), (∀ x ∈ value.reals, IsSpelled x) →
    ∀ {p : Position}, Opening p → ∀ {stack : List Frame} {i : Nat} {rest : List Char},
    EndsNumber rest →
    ∃ d j, outcome ⟨⟨stack, p⟩, i⟩ (writeThen value rest) = outcome ⟨deliver stack d, j⟩ rest ∧
      d.bare = ofJson value
  | .null, _, p, hp, stack, i, rest, _ => by
      refine ⟨.null ⟨i, i + 4⟩, i + 4, ?_, rfl⟩
      rw [writeThen, outcome_opening hp rfl (by decide)]
      rfl
  | .bool true, _, p, hp, stack, i, rest, _ => by
      refine ⟨.bool true ⟨i, i + 4⟩, i + 4, ?_, rfl⟩
      rw [writeThen, outcome_opening hp rfl (by decide)]
      rfl
  | .bool false, _, p, hp, stack, i, rest, _ => by
      refine ⟨.bool false ⟨i, i + 5⟩, i + 5, ?_, rfl⟩
      rw [writeThen, outcome_opening hp rfl (by decide)]
      rfl
  | .number (.integer n), _, p, hp, stack, i, rest, hrest => by
      obtain ⟨extent, j, h⟩ := outcome_integer hp hrest n
      exact ⟨.number (.ofInteger n) extent, j, h, rfl⟩
  | .number (.real x), hreals, p, hp, stack, i, rest, hrest => by
      obtain ⟨extent, j, h⟩ := outcome_real hp hrest (hreals x (List.mem_singleton_self x))
      exact ⟨.number (.ofReal x) extent, j, h, rfl⟩
  | .text s, _, p, hp, stack, i, rest, _ => by
      let j := i + 1 + byteCount (s.toList.flatMap writeChar)
      refine ⟨.text (.whole s) ⟨i, j + 1⟩, j + 1, ?_, rfl⟩
      rw [writeThen, writeText, outcome_opening hp rfl (by decide)]
      show outcome ⟨⟨stack, .text { asName := false, start := i }⟩, i + 1⟩
        (s.toList.flatMap writeChar ++ '"' :: rest) = _
      rw [outcome_writeText, endText_value]
  | .list [], _, p, hp, stack, i, rest, _ => by
      refine ⟨.list [] none ⟨i, i + 2⟩, i + 2, ?_, rfl⟩
      rw [writeThen, outcome_opening hp rfl (by decide)]
      rfl
  | .list (first :: others), hreals, p, hp, stack, i, rest, _ => by
      -- The first item stands behind the bracket, each other one behind a comma.
      obtain ⟨hfirst, hothers⟩ := List.forall_mem_append.1 hreals
      rw [writeThen, outcome_opening hp rfl (by decide)]
      show ∃ d j, outcome ⟨⟨.list i [] :: stack, .firstItem⟩, i + 1⟩
        (writeThen first (writeItems others rest)) = _ ∧ _
      obtain ⟨d, j, hd, hbare⟩ := outcome_writeThen first hfirst .firstItem
        (endsNumber_writeItems others rest)
      rw [hd]
      obtain ⟨ds, extent, k, hds, hbares⟩ := outcome_writeItems others hothers
      refine ⟨.list (d :: ds) none extent, k, hds, ?_⟩
      rw [bare, bareItems, hbare, hbares, ofJson, ofItems]
  | .object [], _, p, hp, stack, i, rest, _ => by
      refine ⟨.object [] none ⟨i, i + 2⟩, i + 2, ?_, rfl⟩
      rw [writeThen, outcome_opening hp rfl (by decide)]
      rfl
  | .object ((name, value) :: others), hreals, p, hp, stack, i, rest, _ => by
      obtain ⟨hvalue, hothers⟩ := List.forall_mem_append.1 hreals
      rw [writeThen, outcome_opening hp rfl (by decide)]
      show ∃ d j, outcome ⟨⟨.object i [] :: stack, .name true⟩, i + 1⟩
        (writeText name (':' :: writeThen value (writeMembers others rest))) = _ ∧ _
      obtain ⟨stop, k, hname⟩ := outcome_writeName true name
        (writeThen value (writeMembers others rest))
      rw [hname]
      obtain ⟨d, j, hd, hbare⟩ := outcome_writeThen value hvalue (.value false)
        (endsNumber_writeMembers others rest)
      rw [hd]
      obtain ⟨ds, extent, l, hds, hbares⟩ := outcome_writeMembers others hothers
      refine ⟨.object (({ wording := .whole name, stop, next := stop }, d) :: ds) none extent, l,
        hds, ?_⟩
      rw [bare, bareMembers, hbare, hbares, ofJson, ofMembers]

/-- Written items behind others, and the end of the list. -/
theorem outcome_writeItems : ∀ (items : List Json), (∀ x ∈ itemReals items, IsSpelled x) →
    ∀ {stack : List Frame} {start i : Nat} {done : List Draft} {rest : List Char},
    ∃ ds extent j, outcome ⟨⟨.list start done :: stack, .after⟩, i⟩ (writeItems items rest) =
        outcome ⟨deliver stack (.list (done.reverse ++ ds) none extent), j⟩ rest ∧
      bareItems ds = ofItems items
  | [], _, stack, start, i, done, rest => by
      refine ⟨[], ⟨start, i + 1⟩, i + 1, ?_, rfl⟩
      rw [List.append_nil]
      rfl
  | item :: others, hreals, stack, start, i, done, rest => by
      obtain ⟨hitem, hothers⟩ := List.forall_mem_append.1 hreals
      show ∃ ds extent j, outcome ⟨⟨.list start done :: stack, .value true⟩, i + 1⟩
        (writeThen item (writeItems others rest)) = _ ∧ _
      obtain ⟨d, j, hd, hbare⟩ := outcome_writeThen item hitem (.value true)
        (endsNumber_writeItems others rest)
      rw [hd]
      obtain ⟨ds, extent, k, hds, hbares⟩ := outcome_writeItems others hothers
      refine ⟨d :: ds, extent, k, hds.trans ?_, ?_⟩
      · rw [List.reverse_cons, List.append_assoc]
        rfl
      · rw [bareItems, hbare, hbares, ofItems]

/-- Written members behind others, and the end of the object. -/
theorem outcome_writeMembers : ∀ (members : List (String × Json)),
    (∀ x ∈ memberReals members, IsSpelled x) →
    ∀ {stack : List Frame} {start i : Nat} {done : List (Name × Draft)} {rest : List Char},
    ∃ ds extent j, outcome ⟨⟨.object start done :: stack, .after⟩, i⟩ (writeMembers members rest) =
        outcome ⟨deliver stack (.object (done.reverse ++ ds) none extent), j⟩ rest ∧
      bareMembers ds = ofMembers members
  | [], _, stack, start, i, done, rest => by
      refine ⟨[], ⟨start, i + 1⟩, i + 1, ?_, rfl⟩
      rw [List.append_nil]
      rfl
  | (name, value) :: others, hreals, stack, start, i, done, rest => by
      obtain ⟨hvalue, hothers⟩ := List.forall_mem_append.1 hreals
      show ∃ ds extent j, outcome ⟨⟨.object start done :: stack, .name false⟩, i + 1⟩
        (writeText name (':' :: writeThen value (writeMembers others rest))) = _ ∧ _
      obtain ⟨stop, k, hname⟩ := outcome_writeName false name
        (writeThen value (writeMembers others rest))
      rw [hname]
      obtain ⟨d, j, hd, hbare⟩ := outcome_writeThen value hvalue (.value false)
        (endsNumber_writeMembers others rest)
      rw [hd]
      obtain ⟨ds, extent, l, hds, hbares⟩ := outcome_writeMembers others hothers
      refine ⟨({ wording := .whole name, stop, next := stop }, d) :: ds, extent, l, hds.trans ?_, ?_⟩
      · rw [List.reverse_cons, List.append_assoc]
        rfl
      · rw [bareMembers, hbare, hbares, ofMembers]

end

/-- The text of a value is scanned to the value and nothing behind it. -/
theorem document_write (value : Json) (h : ∀ x ∈ value.reals, IsSpelled x) :
    (document value.write.toList).draft.bare = ofJson value ∧
      (document value.write.toList).surplus = none := by
  have hend : EndsNumber [] := True.intro
  obtain ⟨d, j, hd, hbare⟩ := outcome_writeThen value h (.value false) hend
  have hdocument : document value.write.toList = ⟨d, none⟩ := by
    rw [write, String.toList_ofList]
    exact hd
  rw [hdocument]
  exact ⟨hbare, rfl⟩

end Scan

theorem readDocument_eq_ok_iff {α : Type} {reader : Reader α} {s : String} {a : α} :
    readDocument reader s = .ok a ↔
      reader (Scan.document s.toList).draft = .ok a ∧ (Scan.document s.toList).surplus = none := by
  show (reader _).bind (fun value => (Draft.check _).bind fun _ => .ok value) = _ ↔ _
  rw [Draft.bind_eq_ok_iff]
  cases (Scan.document s.toList).surplus with
  | none => simp [Draft.check, Except.bind]
  | some fault => simp [Draft.check, Draft.failed, Except.bind]

/-- Reading the text of a value is reading the value. -/
theorem readDocument_write {α : Type} {reader : Reader α} (hreader : Draft.Placeless reader)
    {value : Json} (hreals : ∀ x ∈ value.reals, Scan.IsSpelled x) {a : α} :
    readDocument reader value.write = .ok a ↔ reader (.ofJson value) = .ok a := by
  obtain ⟨hdraft, hsurplus⟩ := Scan.document_write value hreals
  rw [readDocument_eq_ok_iff, hsurplus, ← hdraft, (hreader _).eq_ok_iff]
  simp

end TopicOperator.Json
