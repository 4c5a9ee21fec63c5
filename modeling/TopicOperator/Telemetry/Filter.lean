import TopicOperator.Telemetry.Directive

/-!
# Filters of events

Which events a sink lets through.  A filter is written as directives with commas between them.  What
is no directive is left out; if nothing is left, events are let through from the level of information
on.  Of the directives that concern an event the most specific one decides: the one with the longest
target, then one that names a field, then the last one.
-/

namespace TopicOperator

/-- A filter of events. -/
structure LevelFilter where
  directives : List Directive
deriving DecidableEq, Repr

namespace LevelFilter

/-- The pieces of a text between commas. -/
def pieces (s : String) : List String :=
  (s.toList.splitOn ',').map String.ofList

/-- The filter that a text stands for. -/
def ofText (s : String) : LevelFilter :=
  match (pieces s).filterMap Directive.ofText? with
  | [] => ⟨[{ verbosity := .info }]⟩
  | directives => ⟨directives⟩

/-- The directive that decides about an event. -/
def decisive (filter : LevelFilter) (t : TargetedEvent) : Option Directive :=
  (filter.directives.filter (·.concerns t)).foldl
    (fun best d =>
      match best with
      | some b => if b.yieldsTo d then some d else some b
      | none => some d)
    none

/-- Whether an event is let through. -/
def allows (filter : LevelFilter) (t : TargetedEvent) : Bool :=
  match filter.decisive t with
  | some d => d.verbosity.allows t.event.level
  | none => false

end LevelFilter

end TopicOperator
