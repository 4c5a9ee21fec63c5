import TopicOperator.Time.Instant

/-!
# Conditions

What the operator tells about a topic in its status.  There are two types of conditions, each with
a status and a reason and the time of its last transition.  A list of conditions advances by
updates: for each type the last one given counts, a condition that is not updated stays as it is,
and the time of a transition is kept as long as status and reason stay the same.
-/

namespace TopicOperator

/-- What a condition is about. -/
inductive ConditionType where
  | ready
  | synced
deriving DecidableEq, Repr

/-- Why a condition has its status. -/
inductive ConditionReason where
  | creating
  | available
  | unavailable
  | deleting
  | reconcileSuccess
  | reconcileError
deriving DecidableEq, Repr

/-- Whether a condition holds. -/
inductive ConditionStatus where
  | holds
  | fails
  | unknown
deriving DecidableEq, Repr

/-- A condition of a topic. -/
structure Condition where
  lastTransition : Option Instant := none
  message : Option String := none
  reason : ConditionReason
  status : ConditionStatus
  type : ConditionType
deriving DecidableEq, Repr

/-- All types of conditions, in the order in which they are stored. -/
def ConditionType.all : List ConditionType := [.ready, .synced]

namespace Condition

/-- The topic is being created. -/
def creating : Condition := { reason := .creating, status := .fails, type := .ready }

/-- The topic is in place. -/
def available : Condition := { reason := .available, status := .holds, type := .ready }

/-- The topic could not be created. -/
def unavailable : Condition := { reason := .unavailable, status := .fails, type := .ready }

/-- The topic is being deleted. -/
def deleting : Condition := { reason := .deleting, status := .fails, type := .ready }

/-- The last pass succeeded. -/
def reconcileSuccess : Condition :=
  { reason := .reconcileSuccess, status := .holds, type := .synced }

/-- The last pass failed, as the message says. -/
def reconcileError (message : String) : Condition :=
  { message := some message, reason := .reconcileError, status := .fails, type := .synced }

/-- The last condition of a type in a list. -/
def latest (type : ConditionType) (conditions : List Condition) : Option Condition :=
  conditions.reverse.find? fun c => c.type = type

/-- The time of the last transition when a condition is updated. -/
def transitionTime (now : Instant) (old new : Condition) : Option Instant :=
  if old.status = new.status ∧ old.reason = new.reason then
    old.lastTransition.or (some now)
  else
    some now

/-- The condition of one type after an update. -/
def settle (now : Instant) : Option Condition → Option Condition → Option Condition
  | some old, some new => some { new with lastTransition := transitionTime now old new }
  | some old, none => some old
  | none, some new => some { new with lastTransition := some now }
  | none, none => none

/-- The conditions after updates at some time. -/
def advance (now : Instant) (current updates : List Condition) : List Condition :=
  ConditionType.all.filterMap fun type => settle now (latest type current) (latest type updates)

end Condition

end TopicOperator
