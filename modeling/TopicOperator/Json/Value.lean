import TopicOperator.Number.Binary64

/-!
# JSON values

Values of JSON.  An object is the list of its members; the first member of a name is the one that
counts.  Setting a member puts it at the end and leaves no other member of that name.
-/

namespace TopicOperator

/-- A number in a JSON value: an integer or a number with a binary point. -/
inductive JsonNumber where
  | integer (value : Int)
  | real (value : Number.Binary64)
deriving DecidableEq, Repr

/-- A JSON value. -/
inductive Json where
  | null
  | bool (value : Bool)
  | number (value : JsonNumber)
  | text (value : String)
  | list (items : List Json)
  | object (members : List (String × Json))
deriving Inhabited

namespace Json

/-- An integer as a JSON value. -/
def integer (n : Int) : Json := .number (.integer n)

/-- The first member of a name in a list of members. -/
def find (name : String) : List (String × Json) → Option Json
  | [] => none
  | (n, v) :: rest => if n = name then some v else find name rest

/-- The members without those of one name. -/
def without (name : String) (members : List (String × Json)) : List (String × Json) :=
  members.filter (·.1 ≠ name)

/-- The members with the one of a name set to a value. -/
def put (name : String) (value : Json) (members : List (String × Json)) : List (String × Json) :=
  without name members ++ [(name, value)]

/-- The members of an object, none for any other value. -/
def members : Json → List (String × Json)
  | .object members => members
  | _ => []

/-- The items of a list, none for any other value. -/
def items : Json → List Json
  | .list items => items
  | _ => []

/-- The member of a name, null if there is none. -/
def get (value : Json) (name : String) : Json :=
  (find name value.members).getD .null

/-- The member of a name. -/
def get? (value : Json) (name : String) : Option Json :=
  find name value.members

/-- The text that a value is. -/
def asText? : Json → Option String
  | .text s => some s
  | _ => none

/-- The truth value that a value is. -/
def asBool? : Json → Option Bool
  | .bool b => some b
  | _ => none

/-- The integer that a value is. -/
def asInteger? : Json → Option Int
  | .number (.integer n) => some n
  | _ => none

/-- A member that is left out if there is no value. -/
def optional {α : Type} (name : String) (encode : α → Json) : Option α → List (String × Json)
  | none => []
  | some value => [(name, encode value)]

/-- A value or null. -/
def nullable {α : Type} (encode : α → Json) : Option α → Json
  | none => .null
  | some value => encode value

mutual

/-- Equality of values, where the order of members does not matter. -/
def same : Json → Json → Bool
  | .null, .null => true
  | .bool a, .bool b => a == b
  | .number a, .number b => a == b
  | .text a, .text b => a == b
  | .list a, .list b => sameItems a b
  | .object a, .object b => a.length == b.length && sameMembers a b
  | _, _ => false

/-- Equality of lists of values. -/
def sameItems : List Json → List Json → Bool
  | [], [] => true
  | a :: as, b :: bs => same a b && sameItems as bs
  | _, _ => false

/-- Whether each member has an equal one in another list. -/
def sameMembers : List (String × Json) → List (String × Json) → Bool
  | [], _ => true
  | (n, v) :: rest, others =>
      (match find n others with
        | some w => same v w
        | none => false) && sameMembers rest others

end

theorem find_append (name : String) (first second : List (String × Json)) :
    find name (first ++ second) = (find name first).or (find name second) := by
  induction first with
  | nil => simp [find]
  | cons m rest ih =>
      obtain ⟨n, v⟩ := m
      simp only [List.cons_append, find]
      split
      · simp
      · exact ih

theorem find_without (name other : String) (members : List (String × Json)) :
    find other (without name members) = if other = name then none else find other members := by
  induction members with
  | nil => simp [find, without]
  | cons m rest ih =>
      obtain ⟨n, v⟩ := m
      simp only [without, List.filter_cons] at ih ⊢
      by_cases hn : n = name
      · subst hn
        by_cases ho : other = n
        · simpa [ho] using ih
        · have : ¬n = other := fun h => ho h.symm
          simpa [find, ho, this] using ih
      · by_cases ho : other = name
        · subst ho
          simpa [find, hn] using ih
        · by_cases hno : n = other
          · subst hno
            simp [find, hn]
          · simpa [find, hn, ho, hno] using ih

theorem find_put (name other : String) (value : Json) (members : List (String × Json)) :
    find other (put name value members) =
      if other = name then some value else find other members := by
  rw [put, find_append, find_without]
  by_cases h : other = name
  · simp [h, find]
  · have : ¬name = other := fun e => h e.symm
    simp [h, this, find]

end Json

end TopicOperator
