import TopicOperator.Json.Value
import TopicOperator.TextMap.Basic
import TopicOperator.Time.Instant

/-!
# Metadata of a stored object

What the API server keeps about every object besides its specification and status: its name and
namespace, annotations and labels, finalizers, owners and the history of its fields.  Only some of
it matters to the operator, but all of it is read and written back.
-/

namespace TopicOperator

/-- An object that owns another one. -/
structure OwnerReference where
  apiVersion : String := ""
  blockOwnerDeletion : Option Bool := none
  controller : Option Bool := none
  kind : String := ""
  name : String := ""
  uid : String := ""

/-- Who wrote which fields of an object. -/
structure FieldHistory where
  apiVersion : Option String := none
  fieldsType : Option String := none
  fields : Option Json := none
  manager : Option String := none
  operation : Option String := none
  subresource : Option String := none
  time : Option Instant := none

/-- Metadata of a stored object. -/
structure Metadata where
  annotations : Option (TextMap String) := none
  creationTimestamp : Option Instant := none
  deletionGracePeriodSeconds : Option Int := none
  deletionTimestamp : Option Instant := none
  finalizers : Option (List String) := none
  generateName : Option String := none
  generation : Option Int := none
  labels : Option (TextMap String) := none
  managedFields : Option (List FieldHistory) := none
  name : Option String := none
  namespaceName : Option String := none
  ownerReferences : Option (List OwnerReference) := none
  resourceVersion : Option String := none
  selfLink : Option String := none
  uid : Option String := none

namespace Metadata

/-- The annotations, none if there is no map of them. -/
def annotationMap (m : Metadata) : TextMap String :=
  m.annotations.getD .empty

/-- The metadata with one annotation set. -/
def annotate (m : Metadata) (key value : String) : Metadata :=
  { m with annotations := some (m.annotationMap.insert key value) }

/-- The metadata without one annotation. -/
def forget (m : Metadata) (key : String) : Metadata :=
  { m with annotations := some (m.annotationMap.erase key) }

/-- The name, or else the start of the name to be given, or else nothing. -/
def anyName (m : Metadata) : String :=
  (m.name.or m.generateName).getD ""

/-- The finalizers, none if there is no list of them. -/
def finalizerList (m : Metadata) : List String :=
  m.finalizers.getD []

/-- Whether the object is being deleted. -/
def isDeleting (m : Metadata) : Bool :=
  m.deletionTimestamp.isSome

end Metadata

end TopicOperator
