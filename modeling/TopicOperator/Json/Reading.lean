import TopicOperator.Json.Scan
import TopicOperator.Text.Quoted
import TopicOperator.TextMap.Basic

/-!
# Reading typed values

How values of a fixed shape are read from a draft.  A reader walks the draft in the order of the
document and stops at the first flaw: a fault of the document, or something that has not the
expected shape.  Records may be given as objects or, where they allow it, as lists of their fields.
-/

namespace TopicOperator.Json

/-- What keeps a document from being read. -/
inductive FlawKind where
  /-- The document is not well formed. -/
  | fault (kind : FaultKind)
  | missingField (name : String)
  | duplicateField (name : String)
  | unknownVariant (found : String) (known : List String)
  | invalidType (found expected : String)
  | invalidValue (found expected : String)
  | invalidLength (count : Nat) (expected : String)
  /-- A text that is no time. -/
  | noTime
deriving DecidableEq, Repr

/-- Why a document cannot be read, and the number of bytes before the place. -/
structure Flaw where
  kind : FlawKind
  place : Nat
deriving DecidableEq, Repr

/-- The categories of flaws. -/
inductive FlawCategory where
  | data
  | malformed
  | truncated
deriving DecidableEq, Repr

/-- A reader of typed values. -/
abbrev Reader (α : Type) := Draft → Except Flaw α

namespace FlawKind

/-- The category of a kind of flaw. -/
def category : FlawKind → FlawCategory
  | fault kind => if kind.isEnd then .truncated else .malformed
  | _ => .data

/-- A name between grave accents. -/
def ticked (name : String) : String :=
  "\x60" ++ name ++ "\x60"

/-- A list of alternatives. -/
def alternatives : List String → String
  | [] => "there are no variants"
  | [one] => "expected " ++ ticked one
  | [one, other] => "expected " ++ ticked one ++ " or " ++ ticked other
  | names => "expected one of " ++ String.intercalate ", " (names.map ticked)

/-- The wording of a kind of flaw. -/
def message : FlawKind → String
  | fault kind => kind.message
  | missingField name => "missing field " ++ ticked name
  | duplicateField name => "duplicate field " ++ ticked name
  | unknownVariant found known =>
      "unknown variant " ++ ticked found ++ ", " ++ alternatives known
  | invalidType found expected => "invalid type: " ++ found ++ ", expected " ++ expected
  | invalidValue found expected => "invalid value: " ++ found ++ ", expected " ++ expected
  | invalidLength count expected =>
      "invalid length " ++ Number.decimal count ++ ", expected " ++ expected
  | noTime => "invalid time"

end FlawKind

namespace Flaw

/-- A fault as a flaw. -/
def ofFault (fault : Fault) : Flaw := ⟨.fault fault.kind, fault.place⟩

/-- The wording of a flaw in a document. -/
def message (flaw : Flaw) (document : String) : String :=
  flaw.kind.message ++ (LineColumn.ofPlace document flaw.place).text

end Flaw

namespace Draft

/-- A fault as the outcome of reading. -/
def failed {α : Type} (fault : Fault) : Except Flaw α :=
  .error (.ofFault fault)

/-- A fault, if there is one. -/
def check (fault : Option Fault) : Except Flaw Unit :=
  match fault with
  | none => .ok ()
  | some fault => failed fault

/-- The break behind the parts of a list or object, if there is one. -/
def checkEnding (ending : Option Break) : Except Flaw Unit :=
  check (ending.map (·.reading))

/-- The text of a wording. -/
def readWording (wording : Wording) : Except Flaw String :=
  match wording.read with
  | .ok s => .ok s
  | .error fault => failed fault

/-- The number that a literal in some extent stands for. -/
def readNumber (literal : Literal) (extent : Extent) : Except Flaw JsonNumber :=
  match literal.value? with
  | some n => .ok n
  | none => failed ⟨.hugeNumber, extent.stop - literal.unseen⟩

/-- A number as messages describe it. -/
def describeNumber : JsonNumber → String
  | .integer n => "integer " ++ FlawKind.ticked (Number.signedDecimal n)
  | .real x => "floating point " ++ FlawKind.ticked x.text

/-- What is met where something else was expected, and the place where that shows, or a fault in
it. -/
def describe : Draft → Except Flaw (String × Nat)
  | null extent => .ok ("null", extent.stop)
  | bool b extent =>
      .ok ("boolean " ++ FlawKind.ticked (if b then "true" else "false"), extent.stop)
  | number literal extent =>
      (readNumber literal extent).map fun n => (describeNumber n, extent.stop)
  | text wording extent =>
      (readWording wording).map fun s => ("string " ++ Text.quoted s, extent.stop)
  | list _ _ extent => .ok ("sequence", extent.start)
  | object _ _ extent => .ok ("map", extent.start)
  | cut _ broken | missing broken => failed broken.reading

/-- Refuses a draft. -/
def mismatch {α : Type} (d : Draft) (expected : String) : Except Flaw α :=
  match d.describe with
  | .ok (found, place) => .error ⟨.invalidType found expected, place⟩
  | .error e => .error e

/-- Reads a text. -/
def readText (expected : String) : Reader String
  | text wording _ => readWording wording
  | d => d.mismatch expected

/-- Reads a truth value. -/
def readBool : Reader Bool
  | bool b _ => .ok b
  | d => d.mismatch "a boolean"

/-- Reads an integer between two bounds. -/
def readBetween (least greatest : Int) (expected : String) : Reader Int
  | number literal extent => do
      match ← readNumber literal extent with
      | .integer n =>
          if least ≤ n ∧ n ≤ greatest then return n
          else .error ⟨.invalidValue (describeNumber (.integer n)) expected, extent.stop⟩
      | .real x => .error ⟨.invalidType (describeNumber (.real x)) expected, extent.stop⟩
  | d => d.mismatch expected

/-- Reads an integer of 64 bits. -/
def readInteger : Reader Int :=
  readBetween Number.int64.least Number.int64.greatest "i64"

/-- Reads a natural number below a power of two. -/
def readNatural (bits : Nat) : Reader Nat := fun d => do
  let n ← readBetween 0 (Nat.pow 2 bits - 1) ("u" ++ Number.decimal bits) d
  return n.toNat

/-- Reads a value or null. -/
def readOptional {α : Type} (reader : Reader α) : Reader (Option α)
  | null _ => .ok none
  | d => (reader d).map some

/-- Reads the items of a list. -/
def readItems {α : Type} (reader : Reader α) : List Draft → Except Flaw (List α)
  | [] => .ok []
  | item :: rest => do
      let first ← reader item
      let others ← readItems reader rest
      return first :: others

/-- Reads a list. -/
def readList {α : Type} (reader : Reader α) : Reader (List α)
  | list items ending _ => do
      let values ← readItems reader items
      checkEnding ending
      return values
  | d => d.mismatch "a sequence"

/-- Reads the members of a map of texts. -/
def readEntries : List (Name × Draft) → Except Flaw (List (String × String))
  | [] => .ok []
  | (name, value) :: rest => do
      let name ← readWording name.wording
      let value ← readText "a string" value
      let others ← readEntries rest
      return (name, value) :: others

/-- Reads a map of texts, in which the last value of a name counts. -/
def readMap : Reader (TextMap String)
  | object members ending _ => do
      let entries ← readEntries members
      checkEnding ending
      return .ofList entries
  | d => d.mismatch "a map"

/-- The alternative of a name that ends at some place. -/
def readName {α : Type} (known : List (String × α)) (name : String) (stop : Nat) :
    Except Flaw α :=
  match known.find? (·.1 == name) with
  | some (_, value) => .ok value
  | none => .error ⟨.unknownVariant name (known.map (·.1)), stop⟩

/-- What should be the end of an object with a single member, of which the value ends at some
place. -/
def checkSingle (ending : Option Break) (place : Nat) : Except Flaw Unit :=
  match ending with
  | none => .ok ()
  | some broken =>
      if broken.reading.kind = .endInObject then failed broken.reading
      else failed ⟨.noValue, place⟩

/-- Reads one of several named alternatives: its name, or an object with the name as its only member
and null as the value. -/
def readVariant {α : Type} (known : List (String × α)) : Reader α
  | text wording extent => do
      let name ← readWording wording
      readName known name extent.stop
  | object [] none extent => failed ⟨.noName, extent.stop⟩
  | object [] (some broken) _ => failed broken.reading
  | object ((name, value) :: more) ending _ => do
      let variant ← readName known (← readWording name.wording) name.stop
      match value with
      | null extent =>
          if more.isEmpty then
            checkSingle ending extent.stop
            return variant
          else
            failed ⟨.noValue, extent.stop⟩
      | other => other.mismatch "unit"
  | missing broken => failed broken.reading
  | d => failed ⟨.noValue, d.front⟩

/-- Whether a field of a record may be left out: not at all, in objects as well as lists, or only in
objects. -/
inductive Presence where
  | required
  | optional
  | optionalByName
deriving DecidableEq

/-- A field of a record: how it is read into a record that is being filled. -/
structure Field (σ : Type) where
  name : String
  presence : Presence
  read : Draft → Except Flaw (σ → σ)

/-- A kind of record. -/
structure RecordKind (σ : Type) where
  /-- What messages call the record. -/
  title : String
  fields : List (Field σ)
  /-- Whether a list of the fields is allowed, and a repeated field is not. -/
  strict : Bool
  /-- The record before any field is read. -/
  blank : σ

namespace RecordKind

variable {σ : Type}

/-- The first field that is required but was not met. -/
def missing? (kind : RecordKind σ) (met : List String) : Option String :=
  (kind.fields.find? fun f => f.presence == .required && !met.contains f.name).map (·.name)

/-- Reads the members of an object into a record, with the names met so far. -/
def readMembers (kind : RecordKind σ) :
    List (Name × Draft) → List String → σ → Except Flaw (List String × σ)
  | [], met, record => .ok (met, record)
  | (name, value) :: rest, met, record => do
      let word ← readWording name.wording
      match kind.fields.find? (·.name == word) with
      | none =>
          check value.skim
          readMembers kind rest met record
      | some field =>
          if kind.strict && met.contains word then
            .error ⟨.duplicateField word, name.next⟩
          else
            let update ← field.read value
            readMembers kind rest (word :: met) (update record)

/-- What a list of fields should be. -/
def expectedLength (kind : RecordKind σ) : String :=
  let count := kind.fields.length
  kind.title ++ " with " ++ Number.decimal count ++ (if count = 1 then " element" else " elements")

/-- The fault of items behind the last field. -/
def surplusItem (item : Draft) : Fault :=
  match item with
  | .missing broken =>
      if broken.reading.kind = .trailingComma then broken.reading
      else ⟨.trailingText, broken.reading.place⟩
  | _ => ⟨.trailingText, item.front⟩

/-- What should be the end of a list of all fields. -/
def checkFull (ending : Option Break) : Except Flaw Unit :=
  match ending with
  | none => .ok ()
  | some broken =>
      if broken.reading.kind = .noListEnd then failed ⟨.trailingText, broken.reading.place⟩
      else failed broken.reading

/-- Reads the fields of a record from a list, from a given position on. -/
def readFields (kind : RecordKind σ) (ending : Option Break) (stop : Nat) :
    List (Field σ) → List Draft → Nat → σ → Except Flaw σ
  | [], [], _, record => do
      checkFull ending
      return record
  | [], item :: _, _, _ => failed (surplusItem item)
  | field :: fields, [], position, record => do
      checkEnding ending
      if field.presence == .optional then
        readFields kind ending stop fields [] (position + 1) record
      else
        .error ⟨.invalidLength position kind.expectedLength, stop⟩
  | field :: fields, item :: items, position, record => do
      let update ← field.read item
      readFields kind ending stop fields items (position + 1) (update record)

/-- Where it shows that a list stands in place of a record: behind its opening bracket, or behind the
closing one that follows. -/
def listPlace (items : List Draft) (ending : Option Break) (extent : Extent) : Nat :=
  match items, ending with
  | [], none => extent.stop
  | [], some broken => broken.reading.place
  | item :: _, _ => item.start

/-- Reads a record. -/
def read (kind : RecordKind σ) : Reader σ
  | object members ending extent => do
      let (met, record) ← kind.readMembers members [] kind.blank
      checkEnding ending
      match kind.missing? met with
      | some name => .error ⟨.missingField name, extent.stop⟩
      | none => return record
  | list items ending extent =>
      if kind.strict then kind.readFields ending extent.stop kind.fields items 0 kind.blank
      else .error ⟨.invalidType "sequence" kind.title, listPlace items ending extent⟩
  | d => d.mismatch kind.title

end RecordKind

/-- A field that must be there. -/
def requiredField {σ α : Type} (name : String) (reader : Reader α) (set : α → σ → σ) : Field σ where
  name := name
  presence := .required
  read d := (reader d).map set

/-- A field that may be left out, and whose value may be null. -/
def optionalField {σ α : Type} (name : String) (presence : Presence) (reader : Reader α)
    (set : Option α → σ → σ) : Field σ where
  name := name
  presence := presence
  read d := (readOptional reader d).map set

/-- A field that may be left out but whose value may not be null. -/
def defaultField {σ α : Type} (name : String) (reader : Reader α) (set : α → σ → σ) : Field σ where
  name := name
  presence := .optional
  read d := (reader d).map set

/-- The break of a part that is nested too deeply. -/
def tooDeep {α : Type} (extent : Extent) : Except Flaw α :=
  failed ⟨.tooDeep, extent.start + 1⟩

mutual

/-- Reads any value.  Of several members with one name the last one counts, and members come in the
order of their names.  Lists and objects may be nested as deeply as there is room. -/
def readAny (room : Nat) : Reader Json
  | null _ => .ok .null
  | bool b _ => .ok (.bool b)
  | number literal extent => do
      let n ← readNumber literal extent
      return .number n
  | text wording _ => do
      let s ← readWording wording
      return .text s
  | list items ending extent => do
      if room = 0 then tooDeep extent
      let values ← readAnyItems (room - 1) items
      checkEnding ending
      return .list values
  | object members ending extent => do
      if room = 0 then tooDeep extent
      let entries ← readAnyMembers (room - 1) members
      checkEnding ending
      return .object (entries.foldl (fun found (name, value) =>
        TextMap.insertEntry name value found) [])
  | cut _ broken | missing broken => failed broken.reading

/-- Reads a list of any values. -/
def readAnyItems (room : Nat) : List Draft → Except Flaw (List Json)
  | [] => .ok []
  | item :: rest => do
      let first ← readAny room item
      let others ← readAnyItems room rest
      return first :: others

/-- Reads a list of members with any values. -/
def readAnyMembers (room : Nat) : List (Name × Draft) → Except Flaw (List (String × Json))
  | [] => .ok []
  | (name, value) :: rest => do
      let name ← readWording name.wording
      let value ← readAny room value
      let others ← readAnyMembers room rest
      return (name, value) :: others

end

end Draft

/-- Reads a document: a value, and nothing but blanks behind it. -/
def readDocument {α : Type} (reader : Reader α) (s : String) : Except Flaw α := do
  let document := Scan.document s.toList
  let value ← reader document.draft
  Draft.check document.surplus
  return value

/-- Why a document cannot be read, if that is so. -/
def flawMessage? {α : Type} (reader : Reader α) (s : String) : Option String :=
  match readDocument reader s with
  | .ok _ => none
  | .error flaw => some (flaw.message s)

/-- How deeply lists and objects may be nested in a document of any shape. -/
def nestingRoom : Nat := 127

/-- The value that a document spells. -/
def parse? (s : String) : Option Json :=
  (readDocument (Draft.readAny nestingRoom) s).toOption

end TopicOperator.Json
