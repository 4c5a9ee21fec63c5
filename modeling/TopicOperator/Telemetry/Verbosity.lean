import TopicOperator.Log
import TopicOperator.Number.Integer
import TopicOperator.Text.Choice

/-!
# Verbosity

How detailed the events of a sink may be.
-/

namespace TopicOperator

/-- How detailed events may be. -/
inductive Verbosity where
  | off
  | error
  | warn
  | info
  | debug
  | trace
deriving DecidableEq, Repr

namespace Verbosity

/-- The place of a verbosity in the order from little to much detail. -/
def rank : Verbosity → Nat
  | off => 0
  | error => 1
  | warn => 2
  | info => 3
  | debug => 4
  | trace => 5

/-- The verbosity that a level asks for. -/
def ofLevel : Level → Verbosity
  | .error => error
  | .warn => warn
  | .info => info
  | .debug => debug
  | .trace => trace

/-- Whether events of a level are let through. -/
def allows (v : Verbosity) (level : Level) : Bool :=
  (ofLevel level).rank ≤ v.rank

/-- The words for verbosities. -/
def choices : List (String × Verbosity) :=
  [("off", off), ("error", error), ("warn", warn), ("info", info), ("debug", debug),
    ("trace", trace)]

/-- The verbosity that a number stands for. -/
def ofRank? (n : Int) : Option Verbosity :=
  (choices.map (·.2)).find? fun v => v.rank = n

/-- The verbosity that a text stands for: a word in any case, a number, or nothing, which stands for
errors. -/
def ofText? (s : String) : Option Verbosity :=
  match Number.word64.read? s with
  | some n => ofRank? n
  | none => if s.isEmpty then some error else Text.chosenCaseless? choices s

end Verbosity

end TopicOperator
