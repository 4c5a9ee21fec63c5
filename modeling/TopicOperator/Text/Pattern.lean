import TopicOperator.Number.Integer
import TopicOperator.Text.Alphanumeric

/-!
# Regular expressions

Which texts are regular expressions.  Repetitions are written with one of three signs, as counted
ones do not occur; there are groups, named ones and such that set flags, sets of characters with
ranges, nested sets and operators between them, and escapes.  Boundaries of words are no part of an
expression, since they cannot be decided character by character.
-/

namespace TopicOperator.Text.Pattern

/-- What an escape stands for. -/
inductive Escaped where
  | single (code : Nat)
  | set
  | place
deriving DecidableEq

/-- Reads the digits of a character's code. -/
def code? : Nat → Nat → List Char → Option (Escaped × List Char)
  | 0, value, rest => if value.isValidChar then some (.single value, rest) else none
  | _ + 1, _, [] => none
  | count + 1, value, c :: rest =>
      (Number.hexValue? c).bind fun digit => code? count (value * 16 + digit) rest

/-- Reads a category of characters that is named by one letter. -/
def category? : List Char → Option (Escaped × List Char)
  | [] => none
  | c :: rest =>
      if ['l', 'm', 'n', 'p', 's', 'z', 'c'].contains c.toLower then some (.set, rest) else none

/-- The code of a control that is escaped by a letter. -/
def controls : List (Char × Nat) :=
  [('a', 7), ('f', 12), ('t', 9), ('n', 10), ('r', 13), ('v', 11)]

/-- Reads what follows a backslash. -/
def escaped? : List Char → Option (Escaped × List Char)
  | [] => none
  | 'x' :: rest => code? 2 0 rest
  | 'u' :: rest => code? 4 0 rest
  | 'U' :: rest => code? 8 0 rest
  | c :: rest =>
      if c = 'p' ∨ c = 'P' then category? rest
      else if ['d', 's', 'w'].contains c.toLower then some (.set, rest)
      else if c = 'A' ∨ c = 'z' then some (.place, rest)
      else
        match controls.lookup c with
        | some code => some (.single code, rest)
        | none =>
            if c.isAlphanum ∨ 128 ≤ c.toNat ∨ c = '<' ∨ c = '>' then none
            else some (.single c.toNat, rest)

/-- Reads an item of a set. -/
def item? : List Char → Option (Escaped × List Char)
  | [] => none
  | '\\' :: rest => (escaped? rest).filter fun (e, _) => e ≠ .place
  | c :: rest => some (.single c.toNat, rest)

/-- Reads an item of a set or a range of them. -/
def range? (cs : List Char) : Option (List Char) := do
  let (first, rest) ← item? cs
  match rest with
  | '-' :: ']' :: _ | '-' :: '-' :: _ => return rest
  | '-' :: rest =>
      match first, ← item? rest with
      | .single least, (.single greatest, rest) => if least ≤ greatest then return rest else none
      | _, _ => none
  | _ => return rest

/-- Reads what may stand right behind the bracket that opens a set: a sign of negation, hyphens, and
a closing bracket that is an item. -/
def opening? (cs : List Char) : Option (List Char) :=
  let inner := match cs with
    | '^' :: rest => rest
    | cs => cs
  match inner, inner.dropWhile (· = '-') with
  | _, [] => none
  | ']' :: _, _ :: rest => some rest
  | _, rest => some rest

/-- The names of sets that are written between colons. -/
def namedSets : List String :=
  ["alnum", "alpha", "ascii", "blank", "cntrl", "digit", "graph", "lower", "print", "punct", "space",
    "upper", "word", "xdigit"]

/-- Reads a named set behind its bracket. -/
def named? : List Char → Option (List Char)
  | ':' :: rest =>
      let rest := match rest with
        | '^' :: rest => rest
        | rest => rest
      let name := rest.takeWhile (· ≠ ':')
      match rest.drop name.length with
      | ':' :: ']' :: rest => if namedSets.contains (String.ofList name) then some rest else none
      | _ => none
  | _ => none

/-- Reads a set to its closing bracket, where so many brackets are open. -/
def set? : Nat → Nat → List Char → Option (List Char)
  | 0, _, _ | _, _, [] => none
  | fuel + 1, depth, '[' :: rest =>
      match named? rest with
      | some rest => set? fuel depth rest
      | none => (opening? rest).bind (set? fuel (depth + 1))
  | fuel + 1, depth, ']' :: rest => if depth ≤ 1 then some rest else set? fuel (depth - 1) rest
  | fuel + 1, depth, '&' :: '&' :: rest => set? fuel depth rest
  | fuel + 1, depth, '-' :: '-' :: rest => set? fuel depth rest
  | fuel + 1, depth, '~' :: '~' :: rest => set? fuel depth rest
  | fuel + 1, depth, cs => (range? cs).bind (set? fuel depth)

/-- Whether a group may have a name. -/
def isName : List Char → Bool
  | [] => false
  | first :: rest =>
      (first = '_' || (isAlphanumeric first && !first.isDigit)) &&
        rest.all fun c => c = '_' || c = '.' || c = '[' || c = ']' || isAlphanumeric c

/-- Whether characters set and clear flags. -/
def areFlags (cs : List Char) : Bool :=
  cs.all (['i', 'm', 's', 'U', 'u', 'R', 'x', '-'].contains ·) && cs.Nodup && cs.getLast? ≠ some '-'

/-- What is known where an expression goes on. -/
structure Progress where
  /-- How many groups are open. -/
  depth : Nat := 0
  /-- Whether something stands there that can be repeated. -/
  repeatable : Bool := false
  /-- The names of groups. -/
  names : List (List Char) := []

/-- Reads the start of a group. -/
def group? (p : Progress) (cs : List Char) : Option (Progress × List Char) :=
  let inside := { p with depth := p.depth + 1, repeatable := false }
  let named (rest : List Char) : Option (Progress × List Char) :=
    let name := rest.takeWhile (· ≠ '>')
    match rest.drop name.length with
    | '>' :: rest =>
        if isName name && !p.names.contains name then
          some ({ inside with names := name :: p.names }, rest)
        else none
    | _ => none
  match cs with
  | '?' :: '<' :: rest | '?' :: 'P' :: '<' :: rest => named rest
  | '?' :: rest =>
      let flags := rest.takeWhile fun c => c ≠ ':' ∧ c ≠ ')'
      if areFlags flags then
        match rest.drop flags.length with
        | ':' :: rest => some (inside, rest)
        | ')' :: rest => if flags.isEmpty then none else some ({ p with repeatable := false }, rest)
        | _ => none
      else none
  | _ => some (inside, cs)

/-- Reads an expression to its end. -/
def rest? : Nat → Progress → List Char → Bool
  | _, p, [] => p.depth = 0
  | 0, _, _ => false
  | fuel + 1, p, '(' :: rest =>
      match group? p rest with
      | some (p, rest) => rest? fuel p rest
      | none => false
  | fuel + 1, p, ')' :: rest =>
      0 < p.depth && rest? fuel { p with depth := p.depth - 1, repeatable := true } rest
  | fuel + 1, p, '|' :: rest => rest? fuel { p with repeatable := false } rest
  | fuel + 1, p, '[' :: rest =>
      match (opening? rest).bind (set? fuel 1) with
      | some rest => rest? fuel { p with repeatable := true } rest
      | none => false
  | fuel + 1, p, '\\' :: rest =>
      match escaped? rest with
      | some (_, rest) => rest? fuel { p with repeatable := true } rest
      | none => false
  | fuel + 1, p, c :: rest =>
      if c = '*' ∨ c = '+' ∨ c = '?' then
        p.repeatable && rest? fuel p (if rest.head? = some '?' then rest.drop 1 else rest)
      else c ≠ '{' && rest? fuel { p with repeatable := true } rest

/-- Whether characters are a regular expression. -/
def isWellFormed (cs : List Char) : Bool :=
  rest? (cs.length + 1) {} cs

end TopicOperator.Text.Pattern
