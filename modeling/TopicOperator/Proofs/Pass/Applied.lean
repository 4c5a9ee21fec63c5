import TopicOperator.Proofs.Pass.Plan

/-!
# What a plan makes of a remote topic

The calls of a plan, carried out one after the other, set every attribute that the verdict names to
its value, take the tags to remove out of the list and put the tags to add at its end.  Attributes
under any other name, and tags where there are none to change, stay as they are.
-/

namespace TopicOperator

/-- A remote topic with attributes set one after the other. -/
def RemoteTopic.setAttributes (topic : RemoteTopic) (changes : List (Attribute × String)) :
    RemoteTopic :=
  changes.foldl (fun t change => t.setAttribute change.1.name change.2) topic

theorem RemoteTopic.tags_setAttributes (topic : RemoteTopic) (changes : List (Attribute × String)) :
    (topic.setAttributes changes).tags = topic.tags := by
  induction changes generalizing topic with
  | nil => rfl
  | cons change rest ih => exact ih (topic.setAttribute change.1.name change.2)

/-- An attribute has the value that the changes name for it, or else the one it had. -/
theorem AttributeDiff.get?_setAttributes (diff : AttributeDiff) (topic : RemoteTopic)
    (name : String) :
    (topic.setAttributes diff.toList).attributes.get? name =
      ((Attribute.ofName? name).bind diff).or (topic.attributes.get? name) := by
  unfold AttributeDiff.toList Attribute.ofName?
  have hnodup := Attribute.all_nodup
  generalize Attribute.all = attributes at hnodup
  induction attributes generalizing topic with
  | nil => rfl
  | cons a others ih =>
      obtain ⟨ha, hothers⟩ := List.nodup_cons.1 hnodup
      rw [List.filterMap_cons, List.find?_cons]
      by_cases hname : a.name = name
      · -- No other attribute has the name, so the value set here is the last one.
        have hlast : others.find? (fun b => b.name == name) = none := by
          rw [List.find?_eq_none]
          intro b hb hsame
          have hab : b = a := Attribute.name_injective ((beq_iff_eq.1 hsame).trans hname.symm)
          exact ha (hab ▸ hb)
        rw [beq_iff_eq.2 hname]
        cases hvalue : diff a with
        | none =>
            rw [Option.map_none]
            show ((topic.setAttributes _).attributes.get? name) = _
            rw [ih topic hothers, hlast, Option.bind_some, hvalue]
            rfl
        | some value =>
            rw [Option.map_some]
            show (((topic.setAttribute a.name value).setAttributes _).attributes.get? name) = _
            rw [ih _ hothers, hlast, Option.bind_some, hvalue]
            show ((topic.attributes.insert a.name value).get? name) = _
            rw [TextMap.get?_insert, if_pos hname.symm, Option.some_or]
      · rw [beq_eq_false_iff_ne.2 hname]
        cases hvalue : diff a with
        | none =>
            rw [Option.map_none]
            exact ih topic hothers
        | some value =>
            rw [Option.map_some]
            show (((topic.setAttribute a.name value).setAttributes _).attributes.get? name) = _
            rw [ih _ hothers]
            show Option.or _ ((topic.attributes.insert a.name value).get? name) = _
            rw [TextMap.get?_insert, if_neg (Ne.symm hname)]

namespace Verdict

/-- A remote topic with everything done that a verdict asks for. -/
def applied (verdict : Verdict) (topic : RemoteTopic) : RemoteTopic :=
  ((topic.setAttributes verdict.attributes.toList).removeTags verdict.tags.keysToRemove).addTags
    verdict.tags.tagsToAdd

end Verdict

end TopicOperator
