import TopicOperator.Remote.Mutation
import TopicOperator.TextMap.Lemmas
import TopicOperator.Topic.Resource

/-!
# The recorded identity

An identity that the remote service gives to a name is no placeholder: it is not empty and longer
than the name.  So a topic that was created records the identity that it got.
-/

namespace TopicOperator

theorem length_identityFor (region name : String) :
    name.length < (identityFor region name).length := by
  have hseparator : 0 < ":".length := by decide
  have hname := String.length_append ("arn:aws:sns:" ++ region ++ ":" ++ accountId ++ ":") name
  have hprefix := String.length_append ("arn:aws:sns:" ++ region ++ ":" ++ accountId) ":"
  unfold identityFor
  omega

/-- The identity recorded for a topic that was created is the one it got. -/
theorem Topic.externalName_setExternalName (topic : Topic) (region : String) :
    (topic.setExternalName (identityFor region topic.anyName)).externalName =
      some (identityFor region topic.anyName) := by
  have hlonger := length_identityFor region topic.anyName
  have hget : (topic.setExternalName (identityFor region topic.anyName)).metadata.annotationMap.get?
      externalNameKey = some (identityFor region topic.anyName) := by
    show (topic.metadata.annotationMap.insert _ _).get? _ = _
    rw [TextMap.get?_insert, if_pos rfl]
  have hnonempty : (identityFor region topic.anyName).isEmpty = false := by
    rw [Bool.eq_false_iff, Ne, String.isEmpty_iff]
    intro hempty
    rw [hempty, String.length_empty] at hlonger
    omega
  -- Where the object has a name the identity is made from it, and longer.
  have hother : some (identityFor region topic.anyName) ≠ topic.metadata.name := by
    intro hsame
    have hname : topic.anyName = identityFor region topic.anyName := by
      show (topic.metadata.name.or topic.metadata.generateName).getD "" = _
      rw [← hsame]
      rfl
    rw [← hname] at hlonger
    omega
  have hkept : (!(identityFor region topic.anyName).isEmpty &&
      some (identityFor region topic.anyName) != topic.metadata.name) = true := by
    rw [hnonempty, Bool.not_false, Bool.true_and, bne_iff_ne]
    exact hother
  unfold externalName
  rw [hget, Option.filter_some]
  exact if_pos hkept

end TopicOperator
