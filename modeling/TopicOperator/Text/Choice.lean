/-!
# Choices

Values that are chosen by a word.  A word is taken as it is, or without regard to the case of ASCII
letters.
-/

namespace TopicOperator.Text

/-- The value that a word chooses. -/
def chosen? {α : Type} (choices : List (String × α)) (word : String) : Option α :=
  (choices.find? fun choice => choice.1 == word).map (·.2)

/-- Lower case of the ASCII letters of a text. -/
def lowerAscii (s : String) : List Char :=
  s.toList.map Char.toLower

/-- The value that a word chooses in any case. -/
def chosenCaseless? {α : Type} (choices : List (String × α)) (word : String) : Option α :=
  (choices.find? fun choice => lowerAscii choice.1 == lowerAscii word).map (·.2)

end TopicOperator.Text
