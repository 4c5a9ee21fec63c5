import TopicOperator.Proofs.Pass.Applied

/-!
# Verdicts are sound and minimal

A verdict names what has to change at a remote topic, no less and no more.  Doing all of it makes a
topic that the direct test accepts.  And whatever topic the test accepts has, for every attribute and
every tag that the verdict names, something else than what was observed, so no change can be left
out.  Both follow key by key: the test and the verdict ask the same of one attribute or one key, and
the answer does not depend on any other.
-/

namespace TopicOperator

/-- The value of the last tag with some key. -/
def Tag.lastValue (tags : List Tag) (key : String) : Option String :=
  (tags.reverse.find? fun tag => tag.key == key).map Tag.value

/-- The value that counts for a key is the last one. -/
theorem Tag.get?_collapse_eq_lastValue (tags : List Tag) (key : String) :
    (collapse tags).get? key = lastValue tags key := by
  rw [get?_collapse, lastValue, ← List.map_reverse]
  generalize tags.reverse = reversed
  induction reversed with
  | nil => rfl
  | cons tag rest ih =>
      by_cases hkey : tag.key = key
      · simp [TextMap.lookup, entry, hkey]
      · simpa [TextMap.lookup, entry, hkey] using ih

namespace AttributeDiff

/-- An attribute of a topic to which all changes were made. -/
theorem observed_setAttributes (diff : AttributeDiff) (topic : RemoteTopic) (a : Attribute) :
    a.observed (topic.setAttributes diff.toList).attributes =
      (diff a).or (a.observed topic.attributes) := by
  rw [Attribute.observed, get?_setAttributes, Attribute.ofName?_name, Option.bind_some]
  rfl

/-- Attributes are in sync once the changes computed for them were made. -/
theorem inSync_setAttributes (p : Parameters) (topic : RemoteTopic) (a : Attribute) :
    p.inSync (topic.setAttributes (compute p topic.attributes).toList).attributes a = true := by
  rw [Parameters.inSync, observed_setAttributes]
  cases hvalue : compute p topic.attributes a with
  | none =>
      rw [Option.none_or]
      exact compute_eq_none_iff.1 hvalue
  | some value =>
      have hcanonical : value = (p.setting a).canonical := by
        unfold compute at hvalue
        split at hvalue
        · cases hvalue
        · exact (Option.some.inj hvalue).symm
      rw [Option.some_or, hcanonical]
      exact (p.setting a).agrees_canonical

/-- An attribute that has to change is observed differently wherever it is in sync. -/
theorem observed_ne_of_inSync {p : Parameters} {attributes accepted : ObservedAttributes}
    {a : Attribute} (h : (compute p attributes a).isSome = true)
    (hsync : p.inSync accepted a = true) : a.observed accepted ≠ a.observed attributes := by
  intro hsame
  have hnone : compute p attributes a = none := by
    rw [compute_eq_none_iff, Parameters.inSync, ← hsame]
    exact hsync
  rw [hnone] at h
  cases h

end AttributeDiff

namespace TagDiff

theorem removedValue_eq_some_iff {desired found : Option String} {value : String} :
    removedValue desired found = some value ↔
      found = some value ∧ ∀ wanted, desired = some wanted →
        Text.equalCaseless wanted value = false := by
  cases desired <;> cases found <;> simp [removedValue]
  rename_i wanted found
  constructor
  · rintro ⟨hdiffer, rfl⟩
    exact ⟨rfl, hdiffer⟩
  · rintro ⟨rfl, hdiffer⟩
    exact ⟨hdiffer, rfl⟩

theorem addedValue_eq_some_iff {desired found : Option String} {value : String} :
    addedValue desired found = some value ↔
      desired = some value ∧ ∀ seen, found = some seen →
        Text.equalCaseless value seen = false := by
  cases desired <;> cases found <;> simp [addedValue]
  rename_i wanted found
  constructor
  · rintro ⟨hdiffer, rfl⟩
    exact ⟨rfl, hdiffer⟩
  · rintro ⟨rfl, hdiffer⟩
    exact ⟨hdiffer, rfl⟩

variable (desired : Option (TextMap String)) (topic : RemoteTopic)

/-- Tags agree once those to remove were removed and those to add were added. -/
theorem agree_after_changes :
    TagsAgree (desired.getD .empty) (Tag.collapse
      ((topic.removeTags (compute desired topic.tags).keysToRemove).addTags
        (compute desired topic.tags).tagsToAdd).tags) := by
  intro key
  rw [tagsToAdd, RemoteTopic.get?_collapse_addTags_ofMap, get?_collapse_keysToRemove,
    get?_compute_toAdd, ← addedValue_keptValue]
  exact rel_of_removedValue_eq_none (removedValue_keptValue _ _)

/-- A key that is to be removed or added has another value wherever tags agree. -/
theorem lastValue_ne_of_agree {desired : Option (TextMap String)} {observed accepted : List Tag}
    {key : String}
    (h : ((compute desired observed).toRemove.get? key).isSome = true ∨
      ((compute desired observed).toAdd.get? key).isSome = true)
    (hagree : TagsAgree (desired.getD .empty) (Tag.collapse accepted)) :
    Tag.lastValue accepted key ≠ Tag.lastValue observed key := by
  intro hsame
  rw [← Tag.get?_collapse_eq_lastValue, ← Tag.get?_collapse_eq_lastValue] at hsame
  -- With equal values the key would agree as it is, and then nothing is to be done for it.
  have hkey := hagree key
  rw [hsame] at hkey
  obtain ⟨hadd, hremove⟩ := (values_eq_none_iff _ _).2 hkey
  rw [get?_compute_toRemove, get?_compute_toAdd, hadd, hremove] at h
  rcases h with h | h <;> cases h

end TagDiff

namespace Verdict

/-- A snapshot of what a topic becomes when everything is done that a verdict asks for. -/
def appliedTo (verdict : Verdict) (snapshot : Snapshot) : Snapshot :=
  ⟨(verdict.applied ⟨snapshot.attributes, snapshot.tags⟩).attributes,
    (verdict.applied ⟨snapshot.attributes, snapshot.tags⟩).tags⟩

/-- Whether a snapshot has another value than a given one wherever a verdict asks for a change. -/
structure ChangedIn (verdict : Verdict) (observed other : Snapshot) : Prop where
  attributes : ∀ a, (verdict.attributes a).isSome = true →
    a.observed other.attributes ≠ a.observed observed.attributes
  removed : ∀ key, (verdict.tags.toRemove.get? key).isSome = true →
    Tag.lastValue other.tags key ≠ Tag.lastValue observed.tags key
  added : ∀ key, (verdict.tags.toAdd.get? key).isSome = true →
    Tag.lastValue other.tags key ≠ Tag.lastValue observed.tags key

/-- Doing everything that a verdict asks for makes a topic up to date. -/
theorem isUpToDate_appliedTo (p : Parameters) (observed : Snapshot) :
    isUpToDate p ((compute p observed).appliedTo observed) = true := by
  have hattributes := AttributeDiff.inSync_setAttributes p ⟨observed.attributes, observed.tags⟩
  have htags := TagDiff.agree_after_changes p.tags
    (RemoteTopic.setAttributes ⟨observed.attributes, observed.tags⟩
      (compute p observed).attributes.toList)
  rw [RemoteTopic.tags_setAttributes] at htags
  exact (isUpToDate_iff p _).2 ⟨hattributes, htags⟩

/-- Everything that a verdict asks for is changed in every snapshot that is up to date. -/
theorem changedIn_of_isUpToDate {p : Parameters} {accepted : Snapshot}
    (h : isUpToDate p accepted = true) (observed : Snapshot) :
    (compute p observed).ChangedIn observed accepted := by
  obtain ⟨hattributes, htags⟩ := (isUpToDate_iff p accepted).1 h
  exact {
    attributes := fun a ha => AttributeDiff.observed_ne_of_inSync ha (hattributes a)
    removed := fun _ hkey => TagDiff.lastValue_ne_of_agree (.inl hkey) htags
    added := fun _ hkey => TagDiff.lastValue_ne_of_agree (.inr hkey) htags }

/-- A verdict is sound: doing everything that it asks for makes a topic that the direct test
accepts.  It is minimal: in every snapshot that the test accepts, each attribute and each key that it
names has another value than the observed one, or is there where it was not.  And the tags to remove
carry the last values that were observed, the tags to add those that are declared, in both cases
where the two are not equal up to case. -/
theorem verdict_sound_and_minimal (p : Parameters) (observed : Snapshot) :
    isUpToDate p ((compute p observed).appliedTo observed) = true ∧
      (∀ accepted, isUpToDate p accepted = true →
        (compute p observed).ChangedIn observed accepted) ∧
      (∀ key value, (compute p observed).tags.toRemove.get? key = some value ↔
        Tag.lastValue observed.tags key = some value ∧
          ∀ wanted, p.tagMap.get? key = some wanted → Text.equalCaseless wanted value = false) ∧
      ∀ key value, (compute p observed).tags.toAdd.get? key = some value ↔
        p.tagMap.get? key = some value ∧
          ∀ seen, Tag.lastValue observed.tags key = some seen →
            Text.equalCaseless value seen = false := by
  refine ⟨isUpToDate_appliedTo p observed, fun _ h => changedIn_of_isUpToDate h observed, ?_, ?_⟩
  · intro key value
    rw [← Tag.get?_collapse_eq_lastValue, ← TagDiff.removedValue_eq_some_iff]
    exact iff_of_eq (congrArg (· = some value)
      (TagDiff.get?_compute_toRemove p.tags observed.tags key))
  · intro key value
    rw [← Tag.get?_collapse_eq_lastValue, ← TagDiff.addedValue_eq_some_iff]
    exact iff_of_eq (congrArg (· = some value)
      (TagDiff.get?_compute_toAdd p.tags observed.tags key))

/-- A display name and a tag that have to change, and a tag that has to go: a snapshot in which all
three did, up to case, is accepted and has other values for all of them. -/
theorem verdict_sound_and_minimal_replaced :
    let p : Parameters :=
      { region := "us-east-1", displayName := some "Orders", tags := some (.ofList [("team", "red")]) }
    let observed : Snapshot :=
      ⟨.ofList [("DisplayName", "Sales")], [⟨"team", "blue"⟩, ⟨"team", "green"⟩, ⟨"tier", "1"⟩]⟩
    let accepted : Snapshot := ⟨.ofList [("DisplayName", "ORDERS")], [⟨"team", "Red"⟩]⟩
    (compute p observed).ChangedIn observed accepted ∧
      ((compute p observed).attributes .displayName).isSome = true ∧
      (compute p observed).tags.toRemove.get? "team" = some "green" ∧
      (compute p observed).tags.toRemove.get? "tier" = some "1" ∧
      (compute p observed).tags.toAdd.get? "team" = some "red" := by
  intro p observed accepted
  obtain ⟨-, hminimal, -, -⟩ := verdict_sound_and_minimal p observed
  exact ⟨hminimal accepted (by decide +kernel), by decide +kernel, by decide +kernel,
    by decide +kernel, by decide +kernel⟩

end Verdict

end TopicOperator
