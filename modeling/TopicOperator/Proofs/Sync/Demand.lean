import TopicOperator.Proofs.Sync.TagDiff
import TopicOperator.Sync.LateInitialization

/-!
# What is demanded of a remote topic

Parameters are first completed by what was observed and then compared with it.  For one attribute the
outcome of both together, its demand, depends on its declared setting and its observed value alone,
and so it does for the tags as a whole.  What is not declared demands nothing, apart from a flag that
is reported as a text that is no flag; a demand that was met is gone.
-/

namespace TopicOperator

namespace Setting

/-- A setting with what is not declared taken from an observed value that is worth taking over. -/
def completedBy : Setting → Option String → Setting
  | text value, observed => text (value.or (observed.filter fun s => !s.isEmpty))
  | flag value, observed => flag (value.or (observed.bind readFlag))

/-- The value to set where a setting, completed by an observed value, does not agree with it. -/
def demand (setting : Setting) (observed : Option String) : Option String :=
  if (setting.completedBy observed).agrees observed then none
  else some (setting.completedBy observed).canonical

/-- Whether an observed text is there but is no flag. -/
def isGarbled (observed : Option String) : Bool :=
  !(observed.getD "").isEmpty && (readFlag (observed.getD "")).isNone

theorem completedBy_completedBy (setting : Setting) (observed : Option String) :
    (setting.completedBy observed).completedBy observed = setting.completedBy observed := by
  cases setting <;> simp [completedBy, Option.or_assoc]

theorem completedBy_of_isSet {setting : Setting} (h : setting.isSet = true)
    (observed : Option String) : setting.completedBy observed = setting := by
  cases setting with
  | text value =>
      obtain ⟨s, rfl⟩ := Option.isSome_iff_exists.1 h
      rfl
  | flag value =>
      obtain ⟨b, rfl⟩ := Option.isSome_iff_exists.1 h
      rfl

theorem agrees_canonical (setting : Setting) : setting.agrees (some setting.canonical) = true := by
  cases setting with
  | text value => exact Text.equalCaseless_self _
  | flag value =>
      have hread := readFlag_writeFlag (value.getD false)
      have hne : (writeFlag (value.getD false)).isEmpty = false := by
        cases value.getD false <;> decide
      simp [agrees, canonical, hread, hne]

theorem demand_of_isSet {setting : Setting} (h : setting.isSet = true) (observed : Option String) :
    setting.demand observed = if setting.agrees observed then none else some setting.canonical := by
  unfold demand
  rw [completedBy_of_isSet h]

/-- A text that is not declared is taken as it is observed. -/
theorem demand_unset_text (observed : Option String) : (text none).demand observed = none := by
  cases observed with
  | none => simp [demand, completedBy, agrees]
  | some s =>
      by_cases hs : s.isEmpty = true
      · have hempty : s = "" := String.isEmpty_iff.1 hs
        simp [demand, completedBy, agrees, Option.filter, hempty]
      · simp [demand, completedBy, agrees, Option.filter, hs]

/-- A flag that is not declared is taken as it is observed, unless that is no flag. -/
theorem demand_unset_flag (observed : Option String) :
    (flag none).demand observed = if isGarbled observed then some "false" else none := by
  cases observed with
  | none => simp [demand, completedBy, agrees, isGarbled]
  | some s =>
      by_cases hs : s.isEmpty = true
      · have hempty : s = "" := String.isEmpty_iff.1 hs
        have hread : readFlag "" = none := by decide
        simp [demand, completedBy, agrees, isGarbled, hempty, hread]
      · cases hread : readFlag s with
        | none => simp [demand, completedBy, agrees, isGarbled, hs, hread, canonical, writeFlag]
        | some b => simp [demand, completedBy, agrees, isGarbled, hs, hread]

/-- A demand that was met is gone. -/
theorem demand_met {setting : Setting} {observed : Option String} {value : String}
    (h : setting.demand observed = some value) : setting.demand (some value) = none := by
  cases hset : setting.isSet with
  | true =>
      rw [demand_of_isSet hset] at h
      split at h
      · cases h
      · cases h
        rw [demand_of_isSet hset, agrees_canonical, if_pos rfl]
  | false =>
      cases setting with
      | text declared =>
          obtain rfl : declared = none := by simpa [isSet] using hset
          rw [demand_unset_text] at h
          cases h
      | flag declared =>
          obtain rfl : declared = none := by simpa [isSet] using hset
          rw [demand_unset_flag] at h
          split at h
          · cases h
            decide
          · cases h

end Setting

namespace Parameters

theorem setting_completedBy (p : Parameters) (snapshot : Snapshot) (a : Attribute) :
    (p.completedBy snapshot).setting a =
      (p.setting a).completedBy (a.observed snapshot.attributes) := by
  cases a <;> rfl

/-- Parameters are told by their region, their settings and their tags. -/
theorem ext_setting {p q : Parameters} (hregion : p.region = q.region)
    (hsetting : ∀ a, p.setting a = q.setting a) (htags : p.tags = q.tags) : p = q := by
  obtain ⟨_, _, _, _, _, _, _, _⟩ := p
  obtain ⟨_, _, _, _, _, _, _, _⟩ := q
  cases hregion
  cases htags
  cases hsetting .deliveryPolicy
  cases hsetting .displayName
  cases hsetting .policy
  cases hsetting .fifoTopic
  cases hsetting .kmsMasterKeyId
  cases hsetting .contentBasedDeduplication
  rfl

/-- Completing parameters twice by one snapshot is completing them once. -/
theorem completedBy_completedBy (p : Parameters) (snapshot : Snapshot) :
    (p.completedBy snapshot).completedBy snapshot = p.completedBy snapshot := by
  simp [completedBy, fillFrom, ofSnapshot, Option.or_assoc]

theorem completedBy_of_not_gainsFrom {p : Parameters} {snapshot : Snapshot}
    (h : p.gainsFrom snapshot = false) : p.completedBy snapshot = p := by
  simpa [gainsFrom] using h

theorem not_gainsFrom_completedBy (p : Parameters) (snapshot : Snapshot) :
    (p.completedBy snapshot).gainsFrom snapshot = false := by
  simp [gainsFrom, completedBy_completedBy]

end Parameters

/-- The attributes that completed parameters change are those in demand. -/
theorem AttributeDiff.compute_completedBy (p : Parameters) (snapshot : Snapshot) (a : Attribute) :
    compute (p.completedBy snapshot) snapshot.attributes a =
      (p.setting a).demand (a.observed snapshot.attributes) := by
  unfold compute Parameters.inSync
  rw [Parameters.setting_completedBy]
  rfl

namespace TagDiff

/-- The tags that a list of tags suggests where none are declared. -/
def offered (observed : List Tag) : Option (TextMap String) :=
  if observed.isEmpty then none else some (Tag.collapse observed)

/-- What has to change where tags, completed by observed ones, differ from them. -/
def demand (declared : Option (TextMap String)) (observed : List Tag) : TagDiff :=
  compute (declared.or (offered observed)) observed

theorem compute_completedBy (p : Parameters) (snapshot : Snapshot) :
    compute (p.completedBy snapshot).tags snapshot.tags = demand p.tags snapshot.tags := rfl

theorem ext_get? {first second : TagDiff}
    (hadd : ∀ key, first.toAdd.get? key = second.toAdd.get? key)
    (hremove : ∀ key, first.toRemove.get? key = second.toRemove.get? key) : first = second := by
  obtain ⟨firstAdd, firstRemove⟩ := first
  obtain ⟨secondAdd, secondRemove⟩ := second
  congr 1
  · exact TextMap.ext_get? hadd
  · exact TextMap.ext_get? hremove

theorem compute_eq_of_agree {desired : Option (TextMap String)} {observed : List Tag}
    (h : TagsAgree (desired.getD .empty) (Tag.collapse observed)) :
    compute desired observed = ⟨.empty, .empty⟩ := by
  have hempty := (compute_eq_empty_iff desired observed).2 h
  revert hempty
  cases compute desired observed with
  | mk toAdd toRemove =>
      rintro ⟨rfl, rfl⟩
      rfl

/-- Tags that are not declared are taken as they are observed. -/
theorem demand_none (observed : List Tag) : demand none observed = ⟨.empty, .empty⟩ := by
  apply compute_eq_of_agree
  unfold offered
  cases observed with
  | nil => exact TagsAgree.refl _
  | cons tag rest => exact TagsAgree.refl _

/-- What is left of the value of a key when the tags to remove are gone. -/
theorem get?_collapse_keysToRemove (desired : Option (TextMap String)) (topic : RemoteTopic)
    (key : String) :
    (Tag.collapse (topic.removeTags (compute desired topic.tags).keysToRemove).tags).get? key =
      keptValue ((desired.getD .empty).get? key) ((Tag.collapse topic.tags).get? key) := by
  rw [RemoteTopic.get?_collapse_removeTags]
  simp only [keysToRemove, TextMap.mem_keys_iff, get?_compute_toRemove]
  rfl

variable (declared : TextMap String) (topic : RemoteTopic)

/-- What is removed is not demanded again, and what is to be added stays so. -/
theorem demand_removeTags :
    demand (some declared)
        (topic.removeTags (demand (some declared) topic.tags).keysToRemove).tags =
      ⟨(demand (some declared) topic.tags).toAdd, .empty⟩ := by
  have hobserved : ∀ key, (Tag.collapse
      (topic.removeTags (demand (some declared) topic.tags).keysToRemove).tags).get? key =
        keptValue (declared.get? key) ((Tag.collapse topic.tags).get? key) :=
    get?_collapse_keysToRemove (some declared) topic
  apply ext_get?
  · intro key
    have hadded := get?_compute_toAdd (some declared)
      (topic.removeTags (demand (some declared) topic.tags).keysToRemove).tags key
    have hbefore := get?_compute_toAdd (some declared) topic.tags key
    rw [hobserved] at hadded
    exact hadded.trans ((addedValue_keptValue _ _).trans hbefore.symm)
  · intro key
    have hremoved := get?_compute_toRemove (some declared)
      (topic.removeTags (demand (some declared) topic.tags).keysToRemove).tags key
    rw [hobserved] at hremoved
    exact hremoved.trans (removedValue_keptValue _ _)

/-- Once nothing is to be removed, adding what is to be added leaves no demand. -/
theorem demand_addTags (h : (demand (some declared) topic.tags).toRemove = .empty) :
    demand (some declared) (topic.addTags (demand (some declared) topic.tags).tagsToAdd).tags =
      ⟨.empty, .empty⟩ := by
  apply compute_eq_of_agree
  intro key
  show Option.Rel _ (declared.get? key) _
  have hremove : removedValue (declared.get? key) ((Tag.collapse topic.tags).get? key) = none := by
    have hkey := get?_compute_toRemove (some declared) topic.tags key
    rw [show compute (some declared) topic.tags = demand (some declared) topic.tags from rfl, h,
      TextMap.get?_empty] at hkey
    exact hkey.symm
  have hadd : (demand (some declared) topic.tags).toAdd.get? key =
      addedValue (declared.get? key) ((Tag.collapse topic.tags).get? key) :=
    get?_compute_toAdd (some declared) topic.tags key
  rw [tagsToAdd, RemoteTopic.get?_collapse_addTags_ofMap, hadd]
  exact rel_of_removedValue_eq_none hremove

end TagDiff

end TopicOperator
