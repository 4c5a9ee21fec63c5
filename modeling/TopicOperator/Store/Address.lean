/-!
# Addresses

The target of a request is split into a path and a query: the path ends at the first question mark,
the query at the first number sign, and what stands behind the number sign is not sent.  A target
that is too long, or that holds a character which its part may not hold, is no address.
-/

namespace TopicOperator

/-- Where a request goes. -/
structure Address where
  path : String
  query : String
deriving DecidableEq, Repr

/-- Why a target is no address. -/
inductive AddressFlaw where
  | character
  | length
deriving DecidableEq, Repr

/-- The wording of a flaw. -/
def AddressFlaw.message : AddressFlaw → String
  | character => "invalid uri character"
  | length => "uri too long"

namespace Address

/-- How many bytes a target may have. -/
def limit : Nat := 65534

/-- Whether a query may hold a character: not if it is a blank or a control, a quotation mark or an
angle bracket. -/
def isQueryCharacter (c : Char) : Bool :=
  0x21 ≤ c.toNat && c.toNat != 0x7f && c != '"' && c != '#' && c != '<' && c != '>'

/-- Whether a path may hold a character: it may hold quotation marks, but no grave accents. -/
def isPathCharacter (c : Char) : Bool :=
  c == '"' || isQueryCharacter c && c != '?' && c.toNat != 0x60

/-- The characters of a target up to its query and its fragment. -/
def pathOf (target : List Char) : List Char :=
  target.takeWhile fun c => c != '?' && c != '#'

/-- The characters of a target between its path and its fragment. -/
def queryOf (target : List Char) : List Char :=
  match target.dropWhile fun c => c != '?' && c != '#' with
  | '?' :: rest => rest.takeWhile (· != '#')
  | _ => []

/-- The address that a target spells. -/
def ofTarget (target : String) : Except AddressFlaw Address :=
  let path := pathOf target.toList
  let query := queryOf target.toList
  if limit < target.utf8ByteSize then .error .length
  else if path.all isPathCharacter && query.all isQueryCharacter then
    .ok ⟨String.ofList path, String.ofList query⟩
  else .error .character

end Address

end TopicOperator
