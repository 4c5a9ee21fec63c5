import TopicOperator.Proofs.Sync.TagDiff
import TopicOperator.Sync.UpToDate

/-!
# The direct test and the verdict

A topic is up to date by the direct test exactly when the verdict on it is empty.  The test counts
keys and looks the declared ones up; that no observed key is left over follows from the counts,
because a map that contains the keys of another one and is no larger has no other keys.
-/

namespace TopicOperator

namespace TagsAgree

variable {declared found : TextMap String}

theorem isSome_iff (h : TagsAgree declared found) (key : String) :
    (declared.get? key).isSome = true ↔ (found.get? key).isSome = true := by
  have hkey := h key
  revert hkey
  cases declared.get? key <;> cases found.get? key <;> simp

theorem exists_of_get? (h : TagsAgree declared found) {key value : String}
    (hvalue : declared.get? key = some value) :
    ∃ other, found.get? key = some other ∧ Text.equalCaseless value other = true := by
  have hkey := h key
  rw [hvalue] at hkey
  cases hother : found.get? key with
  | none => simp [hother] at hkey
  | some other => exact ⟨other, rfl, by simpa [hother] using hkey⟩

theorem size_eq (h : TagsAgree declared found) : declared.size = found.size := by
  have hkeys : ∀ key, key ∈ declared.keys ↔ key ∈ found.keys := by
    intro key
    rw [TextMap.mem_keys_iff, TextMap.mem_keys_iff]
    exact h.isSome_iff key
  have hperm := (List.perm_ext_iff_of_nodup declared.keys_nodup found.keys_nodup).2 hkeys
  rw [← TextMap.length_keys, ← TextMap.length_keys, hperm.length_eq]

/-- Tags agree when there are equally many of them and every declared one is found. -/
theorem of_size_eq (hsize : declared.size = found.size)
    (hfound : ∀ key value, declared.get? key = some value →
      ∃ other, found.get? key = some other ∧ Text.equalCaseless value other = true) :
    TagsAgree declared found := by
  have hsub : ∀ key, (declared.get? key).isSome = true → (found.get? key).isSome = true := by
    intro key hkey
    obtain ⟨value, hvalue⟩ := Option.isSome_iff_exists.1 hkey
    obtain ⟨other, hother, -⟩ := hfound key value hvalue
    rw [hother]
    rfl
  intro key
  cases hdeclared : declared.get? key with
  | some value =>
      obtain ⟨other, hother, hsame⟩ := hfound key value hdeclared
      rw [hother]
      exact .some hsame
  | none =>
      cases hother : found.get? key with
      | none => exact .none
      | some other =>
          -- A key that is found only would make the found map the larger one.
          have hsome := TextMap.get?_isSome_of_size_eq hsize hsub key (by rw [hother]; rfl)
          rw [hdeclared] at hsome
          cases hsome

end TagsAgree

/-- The direct test of tags accepts exactly the tags that agree. -/
theorem tagsInSync_iff (desired : Option (TextMap String)) (observed : List Tag) :
    tagsInSync desired observed = true ↔
      TagsAgree (desired.getD .empty) (Tag.collapse observed) := by
  simp only [tagsInSync, Bool.and_eq_true, beq_iff_eq, List.all_eq_true, Prod.forall]
  constructor
  · rintro ⟨hsize, hall⟩
    apply TagsAgree.of_size_eq hsize
    intro key value hvalue
    have hentry := hall key value (((desired.getD .empty).get?_eq_some_iff).1 hvalue)
    cases hother : (Tag.collapse observed).get? key with
    | none => simp [hother] at hentry
    | some other => exact ⟨other, rfl, by simpa [hother] using hentry⟩
  · intro hagree
    refine ⟨hagree.size_eq, ?_⟩
    intro key value hentry
    obtain ⟨other, hother, hsame⟩ :=
      hagree.exists_of_get? (((desired.getD .empty).get?_eq_some_iff).2 hentry)
    rw [hother]
    exact hsame

namespace AttributeDiff

/-- The list of changes holds exactly the changes of the attributes. -/
theorem mem_toList_iff {diff : AttributeDiff} {a : Attribute} {value : String} :
    (a, value) ∈ diff.toList ↔ diff a = some value := by
  unfold toList
  rw [List.mem_filterMap]
  constructor
  · rintro ⟨b, -, hb⟩
    obtain ⟨other, hother, hpair⟩ := Option.map_eq_some_iff.1 hb
    cases hpair
    exact hother
  · intro h
    exact ⟨a, Attribute.mem_all a, by rw [h]; rfl⟩

theorem toList_eq_nil_iff {diff : AttributeDiff} : diff.toList = [] ↔ ∀ a, diff a = none := by
  constructor
  · intro h a
    cases hvalue : diff a with
    | none => rfl
    | some value =>
        have hmem := mem_toList_iff.2 hvalue
        rw [h] at hmem
        exact absurd hmem List.not_mem_nil
  · intro h
    rw [List.eq_nil_iff_forall_not_mem]
    rintro ⟨a, value⟩ hmem
    rw [mem_toList_iff, h a] at hmem
    cases hmem

theorem compute_eq_none_iff {p : Parameters} {attributes : ObservedAttributes} {a : Attribute} :
    compute p attributes a = none ↔ p.inSync attributes a = true := by
  unfold compute
  cases p.inSync attributes a <;> simp

end AttributeDiff

/-- The direct test accepts exactly the snapshots whose attributes and tags all agree. -/
theorem isUpToDate_iff (p : Parameters) (snapshot : Snapshot) :
    isUpToDate p snapshot = true ↔
      (∀ a, p.inSync snapshot.attributes a = true) ∧
        TagsAgree p.tagMap (Tag.collapse snapshot.tags) := by
  have hall : (Attribute.all.all fun a => p.inSync snapshot.attributes a) = true ↔
      ∀ a, p.inSync snapshot.attributes a = true := by
    rw [List.all_eq_true]
    exact ⟨fun h a => h a (Attribute.mem_all a), fun h a _ => h a⟩
  rw [isUpToDate, Bool.and_eq_true, tagsInSync_iff, hall]
  exact and_comm

/-- The direct test accepts a snapshot exactly when no attribute has to be set, no tag added and no
tag removed. -/
theorem isUpToDate_iff_nothing_to_change (p : Parameters) (snapshot : Snapshot) :
    isUpToDate p snapshot = true ↔
      (Verdict.compute p snapshot).attributes.toList = [] ∧
        (Verdict.compute p snapshot).tags.toAdd = .empty ∧
        (Verdict.compute p snapshot).tags.toRemove = .empty := by
  have htags : (Verdict.compute p snapshot).tags.toAdd = .empty ∧
      (Verdict.compute p snapshot).tags.toRemove = .empty ↔
        TagsAgree p.tagMap (Tag.collapse snapshot.tags) :=
    TagDiff.compute_eq_empty_iff p.tags snapshot.tags
  have hattributes : (Verdict.compute p snapshot).attributes.toList = [] ↔
      ∀ a, p.inSync snapshot.attributes a = true := by
    rw [AttributeDiff.toList_eq_nil_iff]
    exact forall_congr' fun a => AttributeDiff.compute_eq_none_iff
  rw [isUpToDate_iff, hattributes, htags]

end TopicOperator
