import TopicOperator.Json.Fault
import TopicOperator.Json.Literal

/-!
# Drafts

What a scan of a JSON document yields: the document as far as it goes, with the break where it stops
to be well formed, if there is one.  A draft keeps what a plain value forgets, such as repeated
names, the spelling of numbers and the places of all parts, so that a reader who walks it meets every
fault in the order of the document and can tell where it is.

A part of a draft that is skimmed over is held to less than a part that is read: unpaired
surrogates and numbers out of range do not matter there.
-/

namespace TopicOperator.Json

/-- A text in a draft: a whole one, one that ends at a break, or one with an unpaired surrogate and
possibly a fault behind it. -/
inductive Wording where
  | whole (text : String)
  | cut (broken : Break)
  | unpaired (fault : Fault) (later : Option Fault)
deriving DecidableEq, Repr

/-- The bytes of a document before a part of it, and those up to its end. -/
structure Extent where
  start : Nat := 0
  stop : Nat := 0
deriving DecidableEq, Repr, Inhabited

/-- The name of a member, where it ends, and how far one gets behind it who looks for the end of the
object. -/
structure Name where
  wording : Wording
  stop : Nat := 0
  next : Nat := 0
deriving DecidableEq, Repr

/-- A JSON document as far as it goes. -/
inductive Draft where
  | null (extent : Extent)
  | bool (value : Bool) (extent : Extent)
  | number (literal : Literal) (extent : Extent)
  | text (wording : Wording) (extent : Extent)
  /-- A list of items, and the break behind the last one if the list does not end there. -/
  | list (items : List Draft) (ending : Option Break) (extent : Extent)
  /-- An object, and the break behind the last member if the object does not end there. -/
  | object (members : List (Name × Draft)) (ending : Option Break) (extent : Extent)
  /-- A word or number that breaks off. -/
  | cut (start : Nat) (broken : Break)
  /-- No value, where there should be one. -/
  | missing (broken : Break)
deriving Inhabited

namespace Wording

/-- The text that is read from a wording. -/
def read : Wording → Except Fault String
  | whole s => .ok s
  | cut broken => .error broken.reading
  | unpaired fault _ => .error fault

/-- The fault met when a wording is skimmed. -/
def skim : Wording → Option Fault
  | whole _ => none
  | cut broken => some broken.skimming
  | unpaired _ later => later

end Wording

namespace Draft

/-- The bytes before a draft. -/
def start : Draft → Nat
  | null extent | bool _ extent | number _ extent | text _ extent | list _ _ extent
  | object _ _ extent => extent.start
  | cut start _ => start
  | missing broken => broken.reading.place

/-- The place behind the first byte of a draft. -/
def front : Draft → Nat
  | missing broken => broken.reading.place
  | d => d.start + 1

mutual

/-- The first fault met when a draft is skimmed. -/
def skim : Draft → Option Fault
  | null _ | bool _ _ | number _ _ => none
  | text wording _ => wording.skim
  | list items ending _ => (skimItems items).or (ending.map (·.skimming))
  | object members ending _ => (skimMembers members).or (ending.map (·.skimming))
  | cut _ broken | missing broken => some broken.skimming

/-- The first fault met in a list of items. -/
def skimItems : List Draft → Option Fault
  | [] => none
  | item :: rest => (skim item).or (skimItems rest)

/-- The first fault met in a list of members. -/
def skimMembers : List (Name × Draft) → Option Fault
  | [] => none
  | (name, value) :: rest => (name.wording.skim.or (skim value)).or (skimMembers rest)

end

mutual

/-- The draft of a value, which is not part of a document and so has no places. -/
def ofJson : Json → Draft
  | .null => null {}
  | .bool b => bool b {}
  | .number (.integer n) => number (.ofInteger n) {}
  | .number (.real x) => number (.ofReal x) {}
  | .text s => text (.whole s) {}
  | .list items => list (ofItems items) none {}
  | .object members => object (ofMembers members) none {}

/-- The drafts of a list of values. -/
def ofItems : List Json → List Draft
  | [] => []
  | item :: rest => ofJson item :: ofItems rest

/-- The drafts of a list of members. -/
def ofMembers : List (String × Json) → List (Name × Draft)
  | [] => []
  | (name, value) :: rest => ({ wording := .whole name }, ofJson value) :: ofMembers rest

end

end Draft

end TopicOperator.Json
