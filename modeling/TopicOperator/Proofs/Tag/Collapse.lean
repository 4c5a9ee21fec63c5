import TopicOperator.Proofs.TextMap.Keys
import TopicOperator.Remote.Mutation

/-!
# Lists of tags as maps

A list of tags may repeat a key; read as a map, the last value of a key counts.  The changes that the
remote service makes to a list, seen through this map, are the changes of a map: adding tags writes
their values over those that were there, removing keys removes them.  Adding also leaves each key that
it names only once.
-/

namespace TopicOperator

namespace Tag

theorem get?_collapse (tags : List Tag) (key : String) :
    (collapse tags).get? key = TextMap.lookup key (tags.map entry).reverse :=
  TextMap.get?_ofList _ _

/-- A list of tags has the keys of its map, repeated or not. -/
theorem get?_collapse_isSome_iff (tags : List Tag) (key : String) :
    ((collapse tags).get? key).isSome = true ↔ ∃ tag ∈ tags, tag.key = key := by
  rw [get?_collapse, TextMap.lookup_isSome_iff]
  simp [entry]

theorem get?_collapse_append (first second : List Tag) (key : String) :
    (collapse (first ++ second)).get? key =
      ((collapse second).get? key).or ((collapse first).get? key) := by
  simp only [get?_collapse, List.map_append, List.reverse_append]
  exact TextMap.lookup_append key _ _

theorem get?_collapse_filter (keep : String → Bool) (tags : List Tag) (key : String) :
    (collapse (tags.filter fun tag => keep tag.key)).get? key =
      if keep key then (collapse tags).get? key else none := by
  have hentries : ((tags.filter fun tag => keep tag.key).map entry).reverse =
      (tags.map entry).reverse.filter fun e => keep e.1 := by
    rw [List.filter_reverse, List.filter_map]
    rfl
  rw [get?_collapse, get?_collapse, hentries, TextMap.lookup_filter]

theorem map_entry_ofMap (map : TextMap String) : (ofMap map).map entry = map.entries := by
  rw [ofMap, List.map_map]
  exact List.map_id _

end Tag

namespace RemoteTopic

/-- Setting one tag is writing one entry of the map, however often its key was there. -/
theorem collapse_putTag (tags : List Tag) (tag : Tag) :
    Tag.collapse (putTag tags tag) = (Tag.collapse tags).insert tag.key tag.value := by
  apply TextMap.ext_get?
  intro key
  have hkept := Tag.get?_collapse_filter (fun k => decide (k ≠ tag.key)) tags key
  have hlast : (Tag.collapse [tag]).get? key = if key = tag.key then some tag.value else none := by
    rw [Tag.get?_collapse]
    simp [TextMap.lookup, Tag.entry, eq_comm]
  rw [putTag, Tag.get?_collapse_append, hlast, hkept, TextMap.get?_insert]
  by_cases hkey : key = tag.key <;> simp [hkey]

theorem collapse_foldl_putTag (added tags : List Tag) :
    Tag.collapse (added.foldl putTag tags) = (Tag.collapse tags).insertAll (added.map Tag.entry) := by
  induction added generalizing tags with
  | nil => rfl
  | cons tag rest ih =>
      rw [List.foldl_cons, ih, collapse_putTag]
      rfl

/-- Adding tags overwrites the map of the tags, from left to right. -/
theorem collapse_addTags (topic : RemoteTopic) (added : List Tag) :
    Tag.collapse (topic.addTags added).tags =
      (Tag.collapse topic.tags).insertAll (added.map Tag.entry) :=
  collapse_foldl_putTag added topic.tags

theorem get?_collapse_addTags_ofMap (topic : RemoteTopic) (map : TextMap String) (key : String) :
    (Tag.collapse (topic.addTags (Tag.ofMap map)).tags).get? key =
      (map.get? key).or ((Tag.collapse topic.tags).get? key) := by
  rw [collapse_addTags, Tag.map_entry_ofMap, TextMap.get?_insertAll_entries]

/-- Removing keys removes them from the map of the tags. -/
theorem get?_collapse_removeTags (topic : RemoteTopic) (keys : List String) (key : String) :
    (Tag.collapse (topic.removeTags keys).tags).get? key =
      if key ∈ keys then none else (Tag.collapse topic.tags).get? key := by
  have hkept := Tag.get?_collapse_filter (fun k => !keys.contains k) topic.tags key
  rw [removeTags, hkept]
  by_cases hkey : key ∈ keys <;> simp [hkey]

/-- Removing keys thins out the map of the tags. -/
theorem collapse_removeTags (topic : RemoteTopic) (keys : List String) :
    Tag.collapse (topic.removeTags keys).tags =
      (Tag.collapse topic.tags).filter fun key _ => !keys.contains key := by
  apply TextMap.ext_get?
  intro key
  rw [get?_collapse_removeTags, TextMap.get?_filter_keys]
  by_cases hkey : key ∈ keys <;> simp [hkey]

/-- Setting one tag leaves its key once, and any other key as often as it was there. -/
theorem count_putTag (tags : List Tag) (tag : Tag) (key : String) :
    ((putTag tags tag).map Tag.key).count key =
      if key = tag.key then 1 else (tags.map Tag.key).count key := by
  have hkept : (tags.filter (·.key ≠ tag.key)).map Tag.key = (tags.map Tag.key).filter (· ≠ tag.key) := by
    rw [List.filter_map]
    rfl
  rw [putTag, List.map_append, hkept, List.map_singleton, List.count_append]
  by_cases hkey : key = tag.key
  · have hgone : ((tags.map Tag.key).filter (· ≠ tag.key)).count key = 0 :=
      List.count_eq_zero.2 fun hmem => by simpa [hkey] using (List.mem_filter.1 hmem).2
    rw [hgone, hkey, if_pos rfl, List.count_singleton_self]
  · rw [List.count_filter (by simpa using hkey), if_neg hkey]
    simp [Ne.symm hkey]

/-- Adding tags leaves each of their keys once, and any other key as often as it was there. -/
theorem count_addTags (topic : RemoteTopic) (added : List Tag) (key : String) :
    ((topic.addTags added).tags.map Tag.key).count key =
      if key ∈ added.map Tag.key then 1 else (topic.tags.map Tag.key).count key := by
  show ((added.foldl putTag topic.tags).map Tag.key).count key = _
  generalize topic.tags = tags
  induction added generalizing tags with
  | nil => simp
  | cons tag rest ih =>
      rw [List.foldl_cons, ih, count_putTag, List.map_cons]
      by_cases hkey : key = tag.key
      · simp [hkey]
      · simp [hkey]

/-- Whether a list of tags names every key once at most. -/
def KeysDistinct (tags : List Tag) : Prop := (tags.map Tag.key).Nodup

instance : DecidablePred KeysDistinct :=
  fun tags => inferInstanceAs (Decidable (tags.map Tag.key).Nodup)

/-- Where keys are distinct every tag counts. -/
theorem KeysDistinct.get?_collapse {tags : List Tag} (h : KeysDistinct tags) {tag : Tag}
    (htag : tag ∈ tags) : (Tag.collapse tags).get? tag.key = some tag.value := by
  induction tags with
  | nil => cases htag
  | cons first rest ih =>
      obtain ⟨hfirst, hrest⟩ := List.nodup_cons.1 h
      have happend := Tag.get?_collapse_append [first] rest tag.key
      rw [List.singleton_append] at happend
      rw [happend]
      rcases List.mem_cons.1 htag with rfl | hmem
      · have hnone : (Tag.collapse rest).get? tag.key = none := by
          rw [← Option.not_isSome_iff_eq_none, Tag.get?_collapse_isSome_iff]
          rintro ⟨other, hother, hkey⟩
          exact hfirst (List.mem_map.2 ⟨other, hother, hkey⟩)
        rw [hnone, Option.none_or, Tag.get?_collapse]
        simp [TextMap.lookup, Tag.entry]
      · rw [ih hrest hmem, Option.some_or]

theorem KeysDistinct.filter {tags : List Tag} (h : KeysDistinct tags) (keep : Tag → Bool) :
    KeysDistinct (tags.filter keep) :=
  h.sublist (List.filter_sublist.map Tag.key)

theorem KeysDistinct.putTag {tags : List Tag} (h : KeysDistinct tags) (tag : Tag) :
    KeysDistinct (putTag tags tag) := by
  unfold KeysDistinct RemoteTopic.putTag
  rw [List.map_append, List.nodup_append]
  refine ⟨h.filter _, by simp, ?_⟩
  intro key hkey last hlast
  obtain ⟨kept, hkept, rfl⟩ := List.mem_map.1 hkey
  obtain rfl : last = tag.key := by simpa using hlast
  simpa using (List.mem_filter.1 hkept).2

theorem KeysDistinct.addTags {topic : RemoteTopic} (h : KeysDistinct topic.tags)
    (added : List Tag) : KeysDistinct (topic.addTags added).tags := by
  show KeysDistinct (added.foldl RemoteTopic.putTag topic.tags)
  generalize topic.tags = tags at h
  induction added generalizing tags with
  | nil => exact h
  | cons tag rest ih => exact ih _ (h.putTag tag)

theorem KeysDistinct.removeTags {topic : RemoteTopic} (h : KeysDistinct topic.tags)
    (keys : List String) : KeysDistinct (topic.removeTags keys).tags :=
  h.filter _

end RemoteTopic

end TopicOperator
