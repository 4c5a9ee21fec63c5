import TopicOperator.Sync.Snapshot
import TopicOperator.Topic.Parameters

/-!
# Topics that are up to date

The direct test whether a remote topic matches its parameters.  It builds no list of changes and
stops at the first thing that differs.
-/

namespace TopicOperator

/-- Whether the observed tags are the declared ones: equally many keys, and every declared key
observed with a value that is equal up to case. -/
def tagsInSync (desired : Option (TextMap String)) (observed : List Tag) : Bool :=
  let observed := Tag.collapse observed
  let desired := desired.getD .empty
  desired.size == observed.size &&
    desired.entries.all fun (key, value) =>
      match observed.get? key with
      | some found => Text.equalCaseless value found
      | none => false

/-- Whether a remote topic matches its parameters. -/
def isUpToDate (p : Parameters) (snapshot : Snapshot) : Bool :=
  tagsInSync p.tags snapshot.tags &&
    Attribute.all.all fun a => p.inSync snapshot.attributes a

end TopicOperator
