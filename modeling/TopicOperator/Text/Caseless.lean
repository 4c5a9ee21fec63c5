import TopicOperator.Text.Lowercase

/-!
# Equality of texts up to case

Two texts are equal up to case when their characters have the same lowercase forms, written one
after the other.  This is an equivalence.  It is not the equality of case folding: `ſ` and `s`
differ, and so do `σ` and `ς`.
-/

namespace TopicOperator.Text

/-- The lowercase forms of the characters of a text, one after the other. -/
def fold (s : String) : List Char :=
  s.toList.flatMap lowercase

/-- Equality of texts up to case. -/
def equalCaseless (left right : String) : Bool :=
  fold left == fold right

theorem equalCaseless_iff (left right : String) :
    equalCaseless left right = true ↔ fold left = fold right := by
  simp [equalCaseless]

@[simp] theorem equalCaseless_self (s : String) : equalCaseless s s = true := by
  simp [equalCaseless]

theorem equalCaseless_comm (left right : String) :
    equalCaseless left right = equalCaseless right left := by
  simp only [equalCaseless]
  exact Bool.eq_iff_iff.2 ⟨fun h => by simpa using (by simpa using h : fold left = fold right).symm,
    fun h => by simpa using (by simpa using h : fold right = fold left).symm⟩

theorem equalCaseless_trans {a b c : String} (hab : equalCaseless a b = true)
    (hbc : equalCaseless b c = true) : equalCaseless a c = true := by
  rw [equalCaseless_iff] at *
  exact hab.trans hbc

end TopicOperator.Text
