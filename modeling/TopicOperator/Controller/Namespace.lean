import TopicOperator.Text.Blank
import TopicOperator.Topic.Resource

/-!
# Watched namespaces

The namespaces whose topics the controller looks after: one, or all if none is named.  Blanks around a
name do not count.
-/

namespace TopicOperator

/-- The namespaces whose topics are looked after. -/
inductive WatchedNamespace where
  | all
  | one (name : String)
deriving DecidableEq, Repr, Inhabited

namespace WatchedNamespace

/-- The namespaces that a text names. -/
def ofText (s : String) : WatchedNamespace :=
  let name := Text.trim s
  if name.isEmpty then all else one name

/-- The name of the namespace, if there is only one. -/
def name? : WatchedNamespace → Option String
  | all => none
  | one name => some name

/-- How messages show the namespaces. -/
def text : WatchedNamespace → String
  | all => "<all>"
  | one name => name

/-- The path at which the topics are listed. -/
def path (w : WatchedNamespace) : String := Topic.collectionPath w.name?

end WatchedNamespace

end TopicOperator
