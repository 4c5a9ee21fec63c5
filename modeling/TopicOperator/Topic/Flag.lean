/-!
# Flags as text

The spellings in which the remote service may report a flag.  No other text is a flag, not even
another mixture of upper and lower case.
-/

namespace TopicOperator

/-- The flag that a text spells. -/
def readFlag (s : String) : Option Bool :=
  if s ∈ ["1", "t", "T", "TRUE", "true", "True"] then some true
  else if s ∈ ["0", "f", "F", "FALSE", "false", "False"] then some false
  else none

/-- The spelling in which flags are sent. -/
def writeFlag : Bool → String
  | true => "true"
  | false => "false"

theorem readFlag_writeFlag (b : Bool) : readFlag (writeFlag b) = some b := by
  cases b <;> decide

end TopicOperator
