/-!
# Places in a text

Parts of a text between places that are counted in bytes.
-/

namespace TopicOperator.Text

/-- The number of bytes of characters. -/
def byteCount : List Char → Nat
  | [] => 0
  | c :: rest => c.utf8Size + byteCount rest

/-- The characters without those that start in the first bytes. -/
def dropBytes : Nat → List Char → List Char
  | _, [] => []
  | 0, cs => cs
  | n + 1, c :: rest => dropBytes (n + 1 - c.utf8Size) rest

/-- The characters that end in the first bytes. -/
def takeBytes : Nat → List Char → List Char
  | _, [] => []
  | n, c :: rest => if c.utf8Size ≤ n then c :: takeBytes (n - c.utf8Size) rest else []

/-- The characters between two places. -/
def between (cs : List Char) (start stop : Nat) : String :=
  String.ofList (takeBytes (stop - start) (dropBytes start cs))

/-- The characters from a place on. -/
def fromPlace (cs : List Char) (start : Nat) : String :=
  String.ofList (dropBytes start cs)

@[simp] theorem byteCount_append (first rest : List Char) :
    byteCount (first ++ rest) = byteCount first + byteCount rest := by
  induction first with
  | nil => simp [byteCount]
  | cons c cs ih => simp [byteCount, ih, Nat.add_assoc]

/-- Behind all bytes of some characters stands what follows them. -/
theorem dropBytes_byteCount (cs rest : List Char) :
    dropBytes (byteCount cs) (cs ++ rest) = rest := by
  induction cs with
  | nil => cases rest <;> rfl
  | cons c cs ih =>
      have size : 0 < c.utf8Size := c.utf8Size_pos
      obtain ⟨n, count⟩ : ∃ n, byteCount (c :: cs) = n + 1 :=
        ⟨byteCount (c :: cs) - 1, by rw [byteCount]; omega⟩
      have left : n + 1 - c.utf8Size = byteCount cs := by
        rw [← count, byteCount]; omega
      rw [count, List.cons_append, dropBytes, left, ih]

end TopicOperator.Text
