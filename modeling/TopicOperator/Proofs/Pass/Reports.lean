import TopicOperator.Proofs.Pass.Account

/-!
# What reports start with

The report of an error starts with its message: no message of a failed pass ends with the last
letter of the message of its cause, so nothing is removed from it.  What a report starts with tells
what was being done, and so two errors of the same report agree on whether the topic could not be
created.
-/

namespace TopicOperator

namespace Report

/-- A text ends with a character. -/
def EndsWith (s : String) (c : Char) : Prop :=
  s.toList.getLast? = some c

theorem EndsWith.append {s : String} {c : Char} (h : EndsWith s c) (front : String) :
    EndsWith (front ++ s) c := by
  unfold EndsWith at h ⊢
  rw [String.toList_append, List.getLast?_append, h]
  rfl

theorem endsWith_quoted (s : String) : EndsWith (Text.quoted s) '"' := by
  unfold EndsWith Text.quoted
  rw [String.toList_ofList, List.getLast?_concat]

/-- A character that ends a message and is kept there: no blank and no colon. -/
def IsFirm (c : Char) : Prop :=
  Text.isBlank c = false ∧ c ≠ ':'

instance (c : Char) : Decidable (IsFirm c) :=
  inferInstanceAs (Decidable (_ ∧ _))

/-- A message that ends with another character than its cause does not repeat it. -/
theorem cleaned_of_ne {message cause : String} {c d : Char} (hmessage : EndsWith message c)
    (hcause : EndsWith cause d) (hne : d ≠ c) (hfirm : IsFirm c) : cleaned message cause = message := by
  obtain ⟨front, hfront⟩ := List.getLast?_eq_some_iff.1 hmessage
  obtain ⟨other, hother⟩ := List.getLast?_eq_some_iff.1 hcause
  have hreversed : message.toList.reverse = c :: front.reverse := by
    rw [hfront, List.reverse_concat]
  have hcopy : cause.toList.reverse = d :: other.reverse := by
    rw [hother, List.reverse_concat]
  have hkept (fuel : Nat) :
      dropCopies fuel (d :: other.reverse) (c :: front.reverse) = c :: front.reverse := by
    cases fuel with
    | zero => rfl
    | succ fuel =>
        have hnot : (d == c) = false := beq_false_of_ne hne
        simp [dropCopies, List.isPrefixOf, hnot]
  have hblank : (c :: front.reverse).dropWhile Text.isBlank = c :: front.reverse :=
    List.dropWhile_cons_of_neg (by rw [hfirm.1]; exact Bool.false_ne_true)
  have hcolon : (c :: front.reverse).dropWhile (· = ':') = c :: front.reverse :=
    List.dropWhile_cons_of_neg (by simpa using hfirm.2)
  unfold cleaned
  dsimp only
  rw [hreversed, hcopy, hkept, hblank, hcolon, ← hreversed, List.reverse_reverse,
    String.ofList_toList]

/-- A report starts with the first message, unless something is removed from it. -/
theorem prefix_render {message : String} {causes : List String}
    (hkept : ∀ cause rest, causes = cause :: rest → cleaned message cause = message) :
    message.toList <+: (render (message :: causes)).toList := by
  by_cases hmessage : message = ""
  · rw [hmessage]
    exact List.nil_prefix
  obtain ⟨shortened, rest, hlines⟩ : ∃ shortened rest,
      lines (message :: causes) = ⟨message, shortened⟩ :: rest := by
    cases causes with
    | nil => exact ⟨false, [], rfl⟩
    | cons cause rest =>
        rw [lines, hkept cause rest rfl]
        exact ⟨_, _, rfl⟩
  have hnonempty : (!(Line.mk message shortened).text.isEmpty) = true := by
    rw [Bool.not_eq_true', Bool.eq_false_iff, Ne, String.isEmpty_iff]
    exact hmessage
  unfold render
  dsimp only
  rw [hlines, List.filter_cons_of_pos (p := fun line : Line => !line.text.isEmpty) hnonempty]
  simp only [Line.marked, String.toList_append, List.append_assoc]
  exact List.prefix_append _ _

end Report

open Report

theorem RemoteError.endsWith_message (e : RemoteError) :
    EndsWith e.message 't' ∨ EndsWith e.message 'I' := by
  cases e with
  | notFound identity => exact .inl (EndsWith.append (rfl : EndsWith " does not exist" 't') _)
  | transport operation cause =>
      exact .inr (EndsWith.append (rfl : EndsWith " on the topic API" 'I') _)

theorem StoreError.endsWith_message (e : StoreError) :
    EndsWith e.message 'e' ∨ EndsWith e.message '"' := by
  cases e with
  | noNamespace => exact .inl rfl
  | patchParameters | patchExternalName | patchStatus =>
      exact .inr ((endsWith_quoted _).append _)

theorem Attribute.endsWith_name (a : Attribute) :
    ∃ c, EndsWith a.name c ∧ IsFirm c ∧ 't' ≠ c ∧ 'I' ≠ c := by
  cases a with
  | deliveryPolicy | policy => exact ⟨'y', rfl, by decide⟩
  | displayName => exact ⟨'e', rfl, by decide⟩
  | fifoTopic => exact ⟨'c', rfl, by decide⟩
  | kmsMasterKeyId => exact ⟨'d', rfl, by decide⟩
  | contentBasedDeduplication => exact ⟨'n', rfl, by decide⟩

namespace PassError

theorem cleaned_remote {message : String} {c : Char} (h : EndsWith message c) (hfirm : IsFirm c)
    (hother : 't' ≠ c ∧ 'I' ≠ c) (cause : RemoteError) : cleaned message cause.message = message :=
  cause.endsWith_message.elim (fun hcause => cleaned_of_ne h hcause hother.1 hfirm)
    fun hcause => cleaned_of_ne h hcause hother.2 hfirm

theorem cleaned_store {message : String} {c : Char} (h : EndsWith message c) (hfirm : IsFirm c)
    (hother : 'e' ≠ c ∧ '"' ≠ c) (cause : StoreError) : cleaned message cause.message = message :=
  cause.endsWith_message.elim (fun hcause => cleaned_of_ne h hcause hother.1 hfirm)
    fun hcause => cleaned_of_ne h hcause hother.2 hfirm

/-- No message of a failed pass loses anything in its report. -/
theorem cleaned_message (e : PassError) (cause : String) (rest : List String)
    (h : e.causes = cause :: rest) : cleaned e.message cause = e.message := by
  cases e with
  | fetchAttributes | fetchTags | createTopic | deleteTopic =>
      obtain rfl := (List.cons.inj h).1
      exact cleaned_remote ((endsWith_quoted _).append _) (by decide) (by decide) _
  | updateAttribute which =>
      obtain rfl := (List.cons.inj h).1
      obtain ⟨c, hend, hfirm, hother⟩ := which.endsWith_name
      exact cleaned_remote (hend.append _) hfirm hother _
  | removeTags keys =>
      obtain rfl := (List.cons.inj h).1
      have hbracket : EndsWith (Text.quotedList keys) ']' :=
        EndsWith.append (rfl : EndsWith "]" ']') _
      exact cleaned_remote (hbracket.append _) (by decide) (by decide) _
  | addTags =>
      obtain rfl := (List.cons.inj h).1
      exact cleaned_remote (rfl : EndsWith "failed to add tags" 's') (by decide) (by decide) _
  | recordExternalName =>
      obtain rfl := (List.cons.inj h).1
      have hend : EndsWith " of the created topic" 'c' := rfl
      exact cleaned_store (hend.append _) (by decide) (by decide) _
  | persistParameters =>
      obtain rfl := (List.cons.inj h).1
      have hend : EndsWith "failed to persist late initialized parameters" 's' := rfl
      exact cleaned_store hend (by decide) (by decide) _
  | persistStatus =>
      obtain rfl := (List.cons.inj h).1
      exact cleaned_store (rfl : EndsWith "failed to persist status" 's') (by decide) (by decide) _
  | cancelled | timedOut => cases h

/-- How the message of an error starts: with what was being done. -/
def opening : PassError → String
  | fetchAttributes _ _ | fetchTags _ _ => "failed to fetch"
  | createTopic _ _ => "failed to create"
  | recordExternalName _ _ => "failed to record"
  | updateAttribute _ _ => "failed to update"
  | removeTags _ _ => "failed to remove"
  | addTags _ => "failed to add"
  | deleteTopic _ _ => "failed to delete"
  | persistParameters _ | persistStatus _ => "failed to persist"
  | cancelled operation | timedOut operation _ => operation

theorem prefix_append {start front : String} (h : start.toList <+: front.toList) (back : String) :
    start.toList <+: (front ++ back).toList := by
  rw [String.toList_append]
  exact h.trans (List.prefix_append _ _)

theorem opening_message (e : PassError) : e.opening.toList <+: e.message.toList := by
  have hself (s : String) : s.toList <+: s.toList := List.prefix_refl _
  cases e with
  | fetchAttributes | fetchTags | createTopic | updateAttribute | removeTags | deleteTopic =>
      dsimp only [opening]
      exact prefix_append (by decide) _
  | recordExternalName =>
      dsimp only [opening]
      exact prefix_append (prefix_append (by decide) _) _
  | addTags | persistParameters | persistStatus =>
      dsimp only [opening, message]
      decide
  | cancelled => exact prefix_append (hself _) _
  | timedOut => exact prefix_append (prefix_append (hself _) _) _

/-- The report of an error says first what was being done. -/
theorem opening_report (e : PassError) : e.opening.toList <+: e.report.toList :=
  e.opening_message.trans (prefix_render e.cleaned_message)

/-- A report tells whether the topic could not be created. -/
theorem isCreateTopic_iff {e : PassError} (h : e.Genuine) :
    e.isCreateTopic = true ↔ (createTopic "" (.notFound "")).opening.toList <+: e.report.toList := by
  constructor
  · intro hcreate
    cases e with
    | createTopic name cause => exact opening_report (createTopic name cause)
    | _ => cases hcreate
  · intro hreport
    have hone := List.prefix_or_prefix_of_prefix hreport e.opening_report
    cases e with
    | createTopic => rfl
    | cancelled name | timedOut name =>
        -- What was cut short is a call of the remote service, which has another name.
        obtain ⟨operation, rfl⟩ := h
        dsimp only [opening] at hone
        cases operation <;> exact absurd hone (by decide)
    | _ =>
        dsimp only [opening] at hone
        exact absurd hone (by decide)

/-- Two errors of the same report agree on whether the topic could not be created. -/
theorem isCreateTopic_of_report {e e' : PassError} (hgenuine : e.Genuine) (hgenuine' : e'.Genuine)
    (h : e.report = e'.report) : e.isCreateTopic = e'.isCreateTopic := by
  rw [Bool.eq_iff_iff, isCreateTopic_iff hgenuine, isCreateTopic_iff hgenuine', h]

end PassError

end TopicOperator
