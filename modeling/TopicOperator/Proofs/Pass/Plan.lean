import TopicOperator.Pass.Error
import TopicOperator.Proofs.Remote.Revision
import TopicOperator.Proofs.Sync.Demand
import TopicOperator.Proofs.Sync.UpToDate

/-!
# Plans

The changing calls that a pass makes at a remote topic that is there: the attributes in demand in the
order of setting, then the tags to remove, then the tags to add.  Every call of a plan takes exactly
itself out of the plan: the plan that is made anew after some calls of it were carried out is the rest
of it.
-/

namespace TopicOperator

/-- A changing call of a pass, with the error that its failure causes. -/
structure Task where
  mutation : Mutation
  failure : RemoteError → PassError

/-- The calls of an update: attributes are set one at a time, then tags are removed, if any, then tags
are added, if any. -/
def updateCalls (identity : String) (changes : List (Attribute × String)) (keys : List String)
    (tags : List Tag) : List Mutation :=
  changes.map (fun change => .setAttribute identity change.1.name change.2) ++
    ((if keys = [] then [] else [.removeTags identity keys]) ++
      (if tags = [] then [] else [.addTags identity tags]))

section Update

variable {identity : String} {changes : List (Attribute × String)} {keys : List String}
  {tags : List Tag}

/-- An update makes no call exactly when nothing of it is counted. -/
theorem updateCalls_eq_nil_iff : updateCalls identity changes keys tags = [] ↔
    changes.length + tags.length + keys.length = 0 := by
  have hkeys : (if keys = [] then [] else [Mutation.removeTags identity keys]) = [] ↔ keys = [] := by
    split <;> simp [*]
  have htags : (if tags = [] then [] else [Mutation.addTags identity tags]) = [] ↔ tags = [] := by
    split <;> simp [*]
  unfold updateCalls
  rw [List.append_eq_nil_iff, List.append_eq_nil_iff, List.map_eq_nil_iff, hkeys, htags,
    ← List.length_eq_zero_iff, ← List.length_eq_zero_iff, ← List.length_eq_zero_iff]
  omega

theorem revises_of_mem_updateCalls {m : Mutation} (h : m ∈ updateCalls identity changes keys tags) :
    m.Revises identity := by
  unfold updateCalls at h
  rw [List.mem_append, List.mem_append] at h
  rcases h with h | h | h
  · obtain ⟨change, -, rfl⟩ := List.mem_map.1 h
    rfl
  · split at h
    · cases h
    · obtain rfl := List.mem_singleton.1 h
      rfl
  · split at h
    · cases h
    · obtain rfl := List.mem_singleton.1 h
      rfl

end Update

namespace TagDiff

variable (diff : TagDiff)

theorem keysToRemove_eq_nil_iff : diff.keysToRemove = [] ↔ diff.toRemove.isEmpty = true := by
  simp [keysToRemove, TextMap.keys, TextMap.isEmpty]

theorem tagsToAdd_eq_nil_iff : diff.tagsToAdd = [] ↔ diff.toAdd.isEmpty = true := by
  simp [tagsToAdd, Tag.ofMap, TextMap.isEmpty]

end TagDiff

namespace Verdict

/-- The call that sets one attribute. -/
def attributeTask (identity : String) (change : Attribute × String) : Task :=
  ⟨.setAttribute identity change.1.name change.2, .updateAttribute change.1⟩

/-- The call that removes tags, if there are any to remove. -/
def removalTasks (identity : String) (tags : TagDiff) : List Task :=
  if tags.toRemove.isEmpty then []
  else [⟨.removeTags identity tags.keysToRemove, .removeTags tags.keysToRemove⟩]

/-- The call that adds tags, if there are any to add. -/
def additionTasks (identity : String) (tags : TagDiff) : List Task :=
  if tags.toAdd.isEmpty then [] else [⟨.addTags identity tags.tagsToAdd, .addTags⟩]

/-- The calls that a verdict asks for, in the order in which they are made. -/
def plan (identity : String) (verdict : Verdict) : List Task :=
  verdict.attributes.toList.map (attributeTask identity) ++
    (removalTasks identity verdict.tags ++ additionTasks identity verdict.tags)

/-- The calls of a plan are an update. -/
theorem map_mutation_plan (identity : String) (verdict : Verdict) :
    (verdict.plan identity).map Task.mutation =
      updateCalls identity verdict.attributes.toList verdict.tags.keysToRemove
        verdict.tags.tagsToAdd := by
  have hattributes : (verdict.attributes.toList.map (attributeTask identity)).map Task.mutation =
      verdict.attributes.toList.map fun change =>
        .setAttribute identity change.1.name change.2 := by
    rw [List.map_map]
    rfl
  have hremove : (removalTasks identity verdict.tags).map Task.mutation =
      if verdict.tags.keysToRemove = [] then []
      else [.removeTags identity verdict.tags.keysToRemove] := by
    simp only [removalTasks, verdict.tags.keysToRemove_eq_nil_iff]
    split <;> rfl
  have hadd : (additionTasks identity verdict.tags).map Task.mutation =
      if verdict.tags.tagsToAdd = [] then []
      else [.addTags identity verdict.tags.tagsToAdd] := by
    simp only [additionTasks, verdict.tags.tagsToAdd_eq_nil_iff]
    split <;> rfl
  rw [plan, List.map_append, List.map_append, hattributes, hremove, hadd]
  rfl

theorem revises_of_mem_plan {identity : String} {verdict : Verdict} {task : Task}
    (h : task ∈ verdict.plan identity) : task.mutation.Revises identity := by
  have hmem := List.mem_map_of_mem (f := Task.mutation) h
  rw [map_mutation_plan] at hmem
  exact revises_of_mem_updateCalls hmem

/-- There is nothing to do exactly when no attribute and no tag has to change. -/
theorem plan_eq_nil_iff {identity : String} {verdict : Verdict} :
    verdict.plan identity = [] ↔
      (∀ a, verdict.attributes a = none) ∧
        verdict.tags.toAdd = .empty ∧ verdict.tags.toRemove = .empty := by
  have hremove : removalTasks identity verdict.tags = [] ↔ verdict.tags.toRemove = .empty := by
    rw [← TextMap.isEmpty_iff]
    unfold removalTasks
    split <;> simp [*]
  have hadd : additionTasks identity verdict.tags = [] ↔ verdict.tags.toAdd = .empty := by
    rw [← TextMap.isEmpty_iff]
    unfold additionTasks
    split <;> simp [*]
  unfold plan
  rw [List.append_eq_nil_iff, List.append_eq_nil_iff, List.map_eq_nil_iff,
    AttributeDiff.toList_eq_nil_iff, hremove, hadd]
  exact and_congr_right fun _ => and_comm

end Verdict

/-- A change that was made is no longer in the list of changes, and the others stay. -/
theorem AttributeDiff.toList_of_head_done {diff : AttributeDiff} {a : Attribute} {value : String}
    {rest : List (Attribute × String)} (h : diff.toList = (a, value) :: rest) :
    AttributeDiff.toList (fun b => if b = a then none else diff b) = rest := by
  unfold AttributeDiff.toList at h ⊢
  have hnodup := Attribute.all_nodup
  generalize Attribute.all = attributes at h hnodup
  induction attributes with
  | nil => cases h
  | cons b others ih =>
      obtain ⟨hb, hothers⟩ := List.nodup_cons.1 hnodup
      rw [List.filterMap_cons] at h ⊢
      cases hvalue : diff b with
      | none =>
          simp only [hvalue, Option.map_none] at h
          have hskip : (if b = a then none else diff b) = none := by
            split
            · rfl
            · exact hvalue
          simp only [hskip, Option.map_none]
          exact ih h hothers
      | some other =>
          simp only [hvalue, Option.map_some, List.cons.injEq, Prod.mk.injEq] at h
          obtain ⟨⟨rfl, rfl⟩, hrest⟩ := h
          simp only [if_true, Option.map_none]
          rw [← hrest]
          apply List.filterMap_congr
          intro c hc
          have hne : c ≠ b := by
            rintro rfl
            exact hb hc
          rw [if_neg hne]

namespace Parameters

variable (p : Parameters) (identity : String) (topic : RemoteTopic)

/-- The verdict of a pass on a remote topic that it has read. -/
def verdictOn : Verdict :=
  Verdict.compute (p.completedBy (topic.snapshot identity)) (topic.snapshot identity)

/-- The calls of a pass at a remote topic that it has read. -/
def planFor : List Task :=
  (p.verdictOn identity topic).plan identity

theorem verdictOn_attributes (a : Attribute) :
    (p.verdictOn identity topic).attributes a =
      (p.setting a).demand (topic.attributes.get? a.name) := by
  rw [← a.observed_snapshot identity topic]
  exact AttributeDiff.compute_completedBy p (topic.snapshot identity) a

theorem planFor_eq : p.planFor identity topic =
    (p.verdictOn identity topic).attributes.toList.map (Verdict.attributeTask identity) ++
      (Verdict.removalTasks identity (TagDiff.demand p.tags topic.tags) ++
        Verdict.additionTasks identity (TagDiff.demand p.tags topic.tags)) := rfl

/-- Completing the parameters first makes no other plan. -/
theorem planFor_completedBy :
    (p.completedBy (topic.snapshot identity)).planFor identity topic =
      p.planFor identity topic := by
  unfold planFor verdictOn
  rw [completedBy_completedBy]

/-- Topics whose attributes make the same demands have the same changes of attributes. -/
theorem verdictOn_attributes_congr {p : Parameters} {identity : String} {first second : RemoteTopic}
    (h : first.attributes = second.attributes) :
    (p.verdictOn identity first).attributes = (p.verdictOn identity second).attributes := by
  funext a
  rw [verdictOn_attributes, verdictOn_attributes, h]

/-- The direct test accepts a topic exactly when there is nothing to do at it. -/
theorem isUpToDate_iff_planFor_eq_nil :
    isUpToDate (p.completedBy (topic.snapshot identity)) (topic.snapshot identity) = true ↔
      p.planFor identity topic = [] := by
  have hattributes : ∀ a, (p.completedBy (topic.snapshot identity)).inSync
      (topic.snapshot identity).attributes a = true ↔
        (p.verdictOn identity topic).attributes a = none := fun a =>
    AttributeDiff.compute_eq_none_iff.symm
  have htags := TagDiff.compute_eq_empty_iff (p.completedBy (topic.snapshot identity)).tags topic.tags
  rw [planFor, Verdict.plan_eq_nil_iff, isUpToDate_iff]
  exact and_congr (forall_congr' hattributes) htags.symm

variable {p identity topic} {task : Task} {rest : List Task}

/-- An attribute that was set is not in demand any more. -/
theorem verdictOn_attributes_setAttribute {a : Attribute} {value : String}
    (h : (p.verdictOn identity topic).attributes a = some value) :
    (p.verdictOn identity (topic.setAttribute a.name value)).attributes =
      fun b => if b = a then none else (p.verdictOn identity topic).attributes b := by
  funext b
  rw [verdictOn_attributes]
  show (p.setting b).demand ((topic.attributes.insert a.name value).get? b.name) = _
  rw [TextMap.get?_insert]
  by_cases hb : b = a
  · subst hb
    rw [verdictOn_attributes] at h
    rw [if_pos rfl, if_pos rfl]
    exact Setting.demand_met h
  · have hname : b.name ≠ a.name := fun hname => hb (Attribute.name_injective hname)
    rw [if_neg hname, if_neg hb, verdictOn_attributes]

/-- Where no attribute is in demand, what is left of a plan after tags changed is what the tags
demand then. -/
theorem planFor_of_attributes_done (revised : RemoteTopic) {tags : TagDiff}
    (hdone : (p.verdictOn identity topic).attributes.toList = [])
    (hattributes : revised.attributes = topic.attributes)
    (htags : TagDiff.demand p.tags revised.tags = tags) :
    p.planFor identity revised =
      Verdict.removalTasks identity tags ++ Verdict.additionTasks identity tags := by
  rw [planFor_eq, verdictOn_attributes_congr hattributes, hdone, htags]
  rfl

/-- A call that sets an attribute takes itself out of the plan. -/
theorem planFor_setAttribute {a : Attribute} {value : String} {others : List (Attribute × String)}
    (h : (p.verdictOn identity topic).attributes.toList = (a, value) :: others) :
    p.planFor identity (topic.setAttribute a.name value) =
      others.map (Verdict.attributeTask identity) ++
        (Verdict.removalTasks identity (TagDiff.demand p.tags topic.tags) ++
          Verdict.additionTasks identity (TagDiff.demand p.tags topic.tags)) := by
  have hmem : (a, value) ∈ (p.verdictOn identity topic).attributes.toList := by
    rw [h]
    exact List.mem_cons_self
  rw [planFor_eq, verdictOn_attributes_setAttribute (AttributeDiff.mem_toList_iff.1 hmem),
    AttributeDiff.toList_of_head_done h]
  rfl

/-- A call that changes tags takes itself out of the plan. -/
theorem planFor_revised_tags {declared : TextMap String} (hdeclared : p.tags = some declared)
    (hdone : (p.verdictOn identity topic).attributes.toList = [])
    (h : Verdict.removalTasks identity (TagDiff.demand (some declared) topic.tags) ++
      Verdict.additionTasks identity (TagDiff.demand (some declared) topic.tags) = task :: rest) :
    p.planFor identity (task.mutation.revised topic) = rest := by
  cases hremove : (TagDiff.demand (some declared) topic.tags).toRemove.isEmpty with
  | false =>
      -- The first call removes tags; those to add are added by the next one.
      simp only [Verdict.removalTasks, hremove, Bool.false_eq_true, if_false,
        List.singleton_append, List.cons.injEq] at h
      obtain ⟨rfl, rfl⟩ := h
      have hleft : TagDiff.demand p.tags
          (topic.removeTags (TagDiff.demand (some declared) topic.tags).keysToRemove).tags =
            ⟨(TagDiff.demand (some declared) topic.tags).toAdd, .empty⟩ := by
        rw [hdeclared]
        exact TagDiff.demand_removeTags declared topic
      exact planFor_of_attributes_done (topic.removeTags _) hdone rfl hleft
  | true =>
      -- Nothing is to be removed, so the only call there can be adds tags.
      have hempty := TextMap.isEmpty_iff.1 hremove
      simp only [Verdict.removalTasks, hremove, if_true, List.nil_append] at h
      cases hadd : (TagDiff.demand (some declared) topic.tags).toAdd.isEmpty with
      | true =>
          simp only [Verdict.additionTasks, hadd, if_true] at h
          cases h
      | false =>
          simp only [Verdict.additionTasks, hadd, Bool.false_eq_true, if_false,
            List.cons.injEq] at h
          obtain ⟨rfl, rfl⟩ := h
          have hleft : TagDiff.demand p.tags
              (topic.addTags (TagDiff.demand (some declared) topic.tags).tagsToAdd).tags =
                ⟨.empty, .empty⟩ := by
            rw [hdeclared]
            exact TagDiff.demand_addTags declared topic hempty
          exact planFor_of_attributes_done (topic.addTags _) hdone rfl hleft

/-- A call of a plan takes itself, and nothing else, out of the plan. -/
theorem planFor_revised (h : p.planFor identity topic = task :: rest) :
    p.planFor identity (task.mutation.revised topic) = rest := by
  rw [planFor_eq] at h
  cases hattributes : (p.verdictOn identity topic).attributes.toList with
  | cons change others =>
      obtain ⟨a, value⟩ := change
      rw [hattributes, List.map_cons, List.cons_append, List.cons.injEq] at h
      obtain ⟨rfl, rfl⟩ := h
      exact planFor_setAttribute hattributes
  | nil =>
      rw [hattributes, List.map_nil, List.nil_append] at h
      cases hdeclared : p.tags with
      | none =>
          rw [hdeclared, TagDiff.demand_none] at h
          cases h
      | some declared =>
          rw [hdeclared] at h
          exact planFor_revised_tags hdeclared hattributes h

/-- The plan made anew after the first calls of a plan were carried out is the rest of it. -/
theorem planFor_revisedBy (done : List Task) (h : p.planFor identity topic = done ++ rest) :
    p.planFor identity (topic.revisedBy (done.map Task.mutation)) = rest := by
  induction done generalizing topic with
  | nil => exact h
  | cons task others ih => exact ih (planFor_revised h)

end Parameters

end TopicOperator
