import TopicOperator.Json.Draft

/-!
# Scanning JSON

The scan of a JSON document into a draft, one character at a time.  The state is a stack of the lists
and objects that are open, and a position inside the innermost one.  A break ends the scan: what was
read so far becomes the draft, with the break in its place.

Only space, tab, line feed and carriage return may stand between the parts of a document.  A fault
that a character causes is placed behind the first byte of that character.
-/

namespace TopicOperator.Json

namespace Scan

/-- An open list or object with the bytes before it, its parts with the latest one first. -/
inductive Frame where
  | list (start : Nat) (items : List Draft)
  | object (start : Nat) (members : List (Name × Draft))
  /-- An object in which a name stands without its value. -/
  | member (start : Nat) (members : List (Name × Draft)) (name : Name)

/-- What the characters of a number may be next. -/
inductive Stage where
  | start
  | zero
  | whole
  | point
  | fraction
  | exponent
  | exponentSign
  | exponentDigits
deriving DecidableEq

/-- Where inside an escape a text stands.  A high surrogate waits for its partner. -/
inductive Escape where
  | none
  | backslash
  | hex (digits value : Nat) (high : Option Nat)
  | high (value : Nat)
  | highBackslash (value : Nat)
  /-- Something else than a digit among the four digits, with the number of bytes seen of them. -/
  | spoiled (bytes : Nat)
deriving DecidableEq

/-- A text that is being read, its characters with the latest one first. -/
structure Content where
  asName : Bool
  start : Nat
  characters : List Char := []
  escape : Escape := .none
  /-- The fault of the first surrogate without a partner. -/
  unpaired : Option Fault := none

/-- Where a scan stands. -/
inductive Position where
  | value (afterComma : Bool)
  | firstItem
  | name (first : Bool)
  | colon
  | after
  /-- Inside a word, with the letters to come; the words are null and the two truth values. -/
  | word (start : Nat) (rest : List Char) (value : Option Bool)
  | number (start : Nat) (stage : Stage) (literal : Literal)
  | text (content : Content)
  | finished (draft : Draft)
  | trailing (draft : Draft) (place : Nat)
  | broken (draft : Draft)

/-- The open lists and objects and the position inside of them. -/
structure Front where
  stack : List Frame
  position : Position

/-- The state of a scan, with the number of bytes read. -/
structure State where
  front : Front
  index : Nat

/-- The state before the first character. -/
def start : State := ⟨⟨[], .value false⟩, 0⟩

/-- The blanks of JSON. -/
def isSpace (c : Char) : Bool :=
  c == ' ' || c == '\n' || c == '\t' || c == '\r'

/-- A draft with everything that is open around it. -/
def enclose : List Frame → Draft → Draft
  | [], d => d
  | .list start items :: rest, d => enclose rest (.list (d :: items).reverse none { start })
  | .object start members :: rest, _ => enclose rest (.object members.reverse none { start })
  | .member start members name :: rest, d =>
      enclose rest (.object ((name, d) :: members).reverse none { start })

/-- The end of a scan at a break that a draft holds. -/
def breakOff (stack : List Frame) (d : Draft) : Front :=
  ⟨[], .broken (enclose stack d)⟩

/-- The end of a scan where a list or object neither goes on nor ends. -/
def breakAfter (broken : Break) : List Frame → Front
  | .list start items :: rest => breakOff rest (.list items.reverse (some broken) { start })
  | .object start members :: rest =>
      breakOff rest (.object members.reverse (some broken) { start })
  | stack => breakOff stack (.missing broken)

/-- Puts a value into what is open around it. -/
def deliver (stack : List Frame) (d : Draft) : Front :=
  match stack with
  | [] => ⟨[], .finished d⟩
  | .list start items :: rest => ⟨.list start (d :: items) :: rest, .after⟩
  | .member start members name :: rest =>
      ⟨.object start ((name, d) :: members) :: rest, .after⟩
  | .object _ _ :: _ => breakOff stack d

/-- Closes the list or object that is open at its last character. -/
def closeFrame (here : Nat) : List Frame → Front
  | .list start items :: rest => deliver rest (.list items.reverse none ⟨start, here + 1⟩)
  | .object start members :: rest => deliver rest (.object members.reverse none ⟨start, here + 1⟩)
  | stack => breakAfter (.plain .noValue (here + 1)) stack

/-- The characters behind a value. -/
def afterChar (stack : List Frame) (here : Nat) (c : Char) : Front :=
  if isSpace c then ⟨stack, .after⟩
  else
    match stack with
    | .list _ _ :: _ =>
        if c = ',' then ⟨stack, .value true⟩
        else if c = ']' then closeFrame here stack
        else breakAfter (.plain .noListEnd (here + 1)) stack
    | _ =>
        if c = ',' then ⟨stack, .name false⟩
        else if c = '}' then closeFrame here stack
        else breakAfter (.plain .noObjectEnd (here + 1)) stack

/-- A character after a value was put in its place. -/
def behind (front : Front) (here : Nat) (c : Char) : Front :=
  match front.position with
  | .after => afterChar front.stack here c
  | .finished d => if isSpace c then front else ⟨[], .trailing d (here + 1)⟩
  | _ => front

/-- The stage and literal after the first digit of a number. -/
def numberStart (stack : List Frame) (start : Nat) (negative : Bool) (here : Nat) (c : Char) :
    Front :=
  match Number.digitValue? c with
  | some d =>
      ⟨stack, .number start (if d = 0 then .zero else .whole) { negative, whole := [d] }⟩
  | none => breakOff stack (.cut start (.plain .badNumber (here + 1)))

/-- The draft of a word. -/
def wordDraft (value : Option Bool) (extent : Extent) : Draft :=
  match value with
  | none => .null extent
  | some b => .bool b extent

/-- The first character of a value. -/
def valueChar (stack : List Frame) (afterComma : Bool) (here : Nat) (c : Char) : Front :=
  if isSpace c then ⟨stack, .value afterComma⟩
  else if c = '"' then ⟨stack, .text { asName := false, start := here }⟩
  else if c = '[' then ⟨.list here [] :: stack, .firstItem⟩
  else if c = '{' then ⟨.object here [] :: stack, .name true⟩
  else if c = 'n' then ⟨stack, .word here ['u', 'l', 'l'] none⟩
  else if c = 't' then ⟨stack, .word here ['r', 'u', 'e'] (some true)⟩
  else if c = 'f' then ⟨stack, .word here ['a', 'l', 's', 'e'] (some false)⟩
  else if c = '-' then ⟨stack, .number here .start { negative := true, whole := [] }⟩
  else if (Number.digitValue? c).isSome then numberStart stack here false here c
  else if c = ']' ∧ afterComma then
    breakOff stack (.missing (.split .trailingComma .noValue (here + 1)))
  else breakOff stack (.missing (.plain .noValue (here + 1)))

/-- A character where a name should stand. -/
def nameChar (stack : List Frame) (first : Bool) (here : Nat) (c : Char) : Front :=
  if isSpace c then ⟨stack, .name first⟩
  else if c = '"' then ⟨stack, .text { asName := true, start := here }⟩
  else if c = '}' then
    if first then closeFrame here stack
    else breakAfter (.split .trailingComma .noName (here + 1)) stack
  else breakAfter (.plain .noName (here + 1)) stack

/-- Notes how far one gets behind the latest name. -/
def noteNext (here : Nat) : List Frame → List Frame
  | .member start members name :: rest => .member start members { name with next := here } :: rest
  | stack => stack

/-- A character where a colon should stand. -/
def colonChar (stack : List Frame) (here : Nat) (c : Char) : Front :=
  if isSpace c then ⟨stack, .colon⟩
  else
    let stack := noteNext (if c = '}' then here + 1 else here) stack
    if c = ':' then ⟨stack, .value false⟩
    else breakOff stack (.missing (.plain .noColon (here + 1)))

/-- A character inside a word. -/
def wordChar (stack : List Frame) (start : Nat) (rest : List Char) (value : Option Bool)
    (here : Nat) (c : Char) : Front :=
  match rest with
  | [] => behind (deliver stack (wordDraft value ⟨start, here⟩)) here c
  | next :: more =>
      if c ≠ next then breakOff stack (.cut start (.plain .noWord (here + 1)))
      else if more.isEmpty then deliver stack (wordDraft value ⟨start, here + 1⟩)
      else ⟨stack, .word start more value⟩

/-- A literal with one more digit of its exponent. -/
def exponentDigit (literal : Literal) (d : Nat) : Literal :=
  match literal.exponent with
  | some (negative, digits) => { literal with exponent := some (negative, digits ++ [d]) }
  | none => { literal with exponent := some (false, [d]) }

/-- A character inside or behind a number. -/
def numberChar (stack : List Frame) (start : Nat) (stage : Stage) (literal : Literal) (here : Nat)
    (c : Char) : Front :=
  let faulty := breakOff stack (.cut start (.plain .badNumber (here + 1)))
  let complete := behind (deliver stack (.number literal ⟨start, here⟩)) here c
  let isExponent := c == 'e' || c == 'E'
  match stage, Number.digitValue? c with
  | .start, _ => numberStart stack start literal.negative here c
  | .zero, some _ => faulty
  | .whole, some d => ⟨stack, .number start .whole { literal with whole := literal.whole ++ [d] }⟩
  | .point, some d | .fraction, some d =>
      ⟨stack, .number start .fraction { literal with fraction := literal.fraction ++ [d] }⟩
  | .exponent, some d | .exponentSign, some d | .exponentDigits, some d =>
      ⟨stack, .number start .exponentDigits (exponentDigit literal d)⟩
  | .zero, none | .whole, none =>
      if c = '.' then ⟨stack, .number start .point literal⟩
      else if isExponent then ⟨stack, .number start .exponent literal⟩
      else complete
  | .fraction, none => if isExponent then ⟨stack, .number start .exponent literal⟩ else complete
  | .exponentDigits, none => complete
  | .exponent, none =>
      if c = '+' then ⟨stack, .number start .exponentSign literal⟩
      else if c = '-' then
        ⟨stack, .number start .exponentSign { literal with exponent := some (true, []) }⟩
      else faulty
  | .point, none | .exponentSign, none => faulty

/-- The end of a text at a break. -/
def breakText (stack : List Frame) (content : Content) (broken : Break) : Front :=
  let wording := match content.unpaired with
    | some fault => .unpaired fault (some broken.skimming)
    | none => .cut broken
  match stack, content.asName with
  | .object start members :: rest, true =>
      breakOff (.member start members { wording } :: rest) (.missing broken)
  | _, _ => breakOff stack (.text wording { start := content.start })

/-- The end of a text at its quotation mark. -/
def endText (stack : List Frame) (content : Content) (here : Nat) : Front :=
  let wording := match content.unpaired with
    | some fault => .unpaired fault none
    | none => .whole (String.ofList content.characters.reverse)
  match stack, content.asName with
  | .object start members :: rest, true =>
      ⟨.member start members { wording, stop := here + 1 } :: rest, .colon⟩
  | _, _ => deliver stack (.text wording ⟨content.start, here + 1⟩)

/-- A text with one more character. -/
def Content.push (content : Content) (c : Char) : Content :=
  { content with characters := c :: content.characters, escape := .none }

/-- A text with a surrogate that has no partner. -/
def Content.spoil (content : Content) (kind : FaultKind) (place : Nat) : Content :=
  { content with escape := .none, unpaired := content.unpaired.or (some ⟨kind, place⟩) }

/-- A text after four hexadecimal digits. -/
def Content.pushUnit (content : Content) (value : Nat) (high : Option Nat) (here : Nat) :
    Content :=
  let isHigh := 0xD800 ≤ value && value ≤ 0xDBFF
  let isLow := 0xDC00 ≤ value && value ≤ 0xDFFF
  if content.unpaired.isSome then { content with escape := .none }
  else
    match high with
    | some first =>
        if isLow then
          content.push (Char.ofNat (0x10000 + (first - 0xD800) * 0x400 + (value - 0xDC00)))
        else content.spoil .loneSurrogate (here + 1)
    | none =>
        if isHigh then { content with escape := .high value }
        else if isLow then content.spoil .loneSurrogate (here + 1)
        else content.push (Char.ofNat value)

/-- A character of a text outside of escapes.  A control is met when it was read, or before it when
it is skimmed. -/
def plainChar (stack : List Frame) (content : Content) (here : Nat) (c : Char) : Front :=
  if c = '"' then endText stack content here
  else if c = '\\' then ⟨stack, .text { content with escape := .backslash }⟩
  else if c.toNat < 32 then
    breakText stack content ⟨⟨.control, here + 1⟩, ⟨.control, here⟩⟩
  else ⟨stack, .text (content.push c)⟩

/-- The character behind a backslash. -/
def escapeChar (stack : List Frame) (content : Content) (here : Nat) (c : Char) : Front :=
  if c = 'u' then ⟨stack, .text { content with escape := .hex 0 0 none }⟩
  else if c = '"' ∨ c = '\\' ∨ c = '/' then ⟨stack, .text (content.push c)⟩
  else if c = 'b' then ⟨stack, .text (content.push '\x08')⟩
  else if c = 'f' then ⟨stack, .text (content.push '\x0c')⟩
  else if c = 'n' then ⟨stack, .text (content.push '\n')⟩
  else if c = 'r' then ⟨stack, .text (content.push '\r')⟩
  else if c = 't' then ⟨stack, .text (content.push '\t')⟩
  else breakText stack content (.plain .badEscape (here + 1))

/-- A character in place of a hexadecimal digit, after some bytes of the four. -/
def spoiledChar (stack : List Frame) (content : Content) (bytes here : Nat) (c : Char) : Front :=
  let seen := bytes + c.utf8Size
  if 4 ≤ seen then breakText stack content (.plain .badEscape (here - bytes + 4))
  else ⟨stack, .text { content with escape := .spoiled seen }⟩

/-- A character of a text. -/
def textChar (stack : List Frame) (content : Content) (here : Nat) (c : Char) : Front :=
  match content.escape with
  | .none => plainChar stack content here c
  | .backslash => escapeChar stack content here c
  | .hex digits value high =>
      match Number.hexValue? c with
      | none => spoiledChar stack content digits here c
      | some d =>
          let value := value * 16 + d
          ⟨stack, .text (if digits = 3 then content.pushUnit value high here
            else { content with escape := .hex (digits + 1) value high })⟩
  | .high value =>
      if c = '\\' then ⟨stack, .text { content with escape := .highBackslash value }⟩
      else plainChar stack (content.spoil .openSurrogate (here + 1)) here c
  | .highBackslash value =>
      if c = 'u' then ⟨stack, .text { content with escape := .hex 0 0 (some value) }⟩
      else escapeChar stack (content.spoil .openSurrogate (here + 1)) here c
  | .spoiled bytes => spoiledChar stack content bytes here c

/-- One character of a document, after some bytes. -/
def advance (front : Front) (here : Nat) (c : Char) : Front :=
  let stack := front.stack
  match front.position with
  | .value afterComma => valueChar stack afterComma here c
  | .firstItem =>
      if isSpace c then front
      else if c = ']' then closeFrame here stack
      else valueChar stack false here c
  | .name first => nameChar stack first here c
  | .colon => colonChar stack here c
  | .word start rest value => wordChar stack start rest value here c
  | .number start stage literal => numberChar stack start stage literal here c
  | .text content => textChar stack content here c
  | .after | .finished _ => behind front here c
  | .trailing _ _ | .broken _ => front

/-- One character of a document. -/
def step (state : State) (c : Char) : State :=
  ⟨advance state.front state.index c, state.index + c.utf8Size⟩

/-- A draft, and the fault of what follows it if that is more than blanks. -/
structure Document where
  draft : Draft
  surplus : Option Fault

/-- The draft of a state in which nothing more can follow. -/
def Front.settled (front : Front) (index : Nat) : Document :=
  match front.position with
  | .finished d => ⟨d, none⟩
  | .trailing d place => ⟨d, some ⟨.trailingText, place⟩⟩
  | .broken d => ⟨d, none⟩
  | _ => ⟨.missing (.plain .endInValue index), none⟩

/-- The end of the characters behind a value. -/
def closeAfter (front : Front) (index : Nat) : Front :=
  match front.position, front.stack with
  | .after, .list _ _ :: _ => breakAfter (.plain .endInList index) front.stack
  | .after, _ => breakAfter (.plain .endInObject index) front.stack
  | _, _ => front

/-- The document at the end of the characters. -/
def State.close (state : State) : Document :=
  let stack := state.front.stack
  let index := state.index
  let front : Front := match state.front.position with
    | .value _ => breakOff stack (.missing (.plain .endInValue index))
    | .firstItem => breakAfter (.plain .endInList index) stack
    | .name true => breakAfter (.plain .endInObject index) stack
    | .name false => breakAfter (.split .endInValue .endInObject index) stack
    | .colon => breakOff (noteNext index stack) (.missing (.plain .endInObject index))
    | .after => closeAfter state.front index
    | .word start _ _ => breakOff stack (.cut start (.plain .endInValue index))
    | .number start stage literal =>
        match stage with
        | .zero | .whole | .fraction | .exponentDigits =>
            closeAfter (deliver stack (.number literal ⟨start, index⟩)) index
        | _ => breakOff stack (.cut start (.split .endInValue .badNumber index))
    | .text content => breakText stack content (.plain .endInText index)
    | _ => state.front
  front.settled index

/-- The document that characters spell. -/
def document (cs : List Char) : Document :=
  (cs.foldl step start).close

end Scan

end TopicOperator.Json
