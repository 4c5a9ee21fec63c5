import TopicOperator.Proofs.Pass.Telling
import TopicOperator.Proofs.Remote.Revision

/-!
# The recorded identity over a run of passes

The identity that a topic records is the only key to its remote topic.  A pass records no other
identity than the one that the name of the topic gets, and only after creating the remote topic; so
over any run of passes the annotation changes at most once.  Every other changing call is addressed
to the identity recorded at that moment, so no pass touches a remote topic that belongs to somebody
else.
-/

namespace TopicOperator

namespace Topic

/-- The annotation for the identity, be it a placeholder or not. -/
def identityNote (t : Topic) : Option String :=
  t.metadata.annotationMap.get? externalNameKey

variable {t t' : Topic} {identity : String}

theorem identityNote_setExternalName (t : Topic) (identity : String) :
    (t.setExternalName identity).identityNote = some identity := by
  show (t.metadata.annotationMap.insert externalNameKey identity).get? externalNameKey = _
  rw [TextMap.get?_insert, if_pos rfl]

/-- A recorded identity stands in the annotation. -/
theorem identityNote_of_externalName (h : t.externalName = some identity) :
    t.identityNote = some identity :=
  (Option.filter_eq_some_iff.1 h).1

theorem externalName_congr (h : t'.metadata = t.metadata) : t'.externalName = t.externalName := by
  unfold externalName
  rw [h]

theorem identityNote_congr (h : t'.metadata = t.metadata) : t'.identityNote = t.identityNote := by
  unfold identityNote
  rw [h]

end Topic

/-- If this is a changing call that succeeded, it was answered with the identity that it
concerns. -/
def Exchange.NamesTarget (place : String) (e : Exchange) : Prop :=
  ∀ m identity, e = .call m (.ok (.ok identity)) → identity = m.target place

/-- An identity was written back, and this was taken. -/
def Dialogue.Records (talk : Dialogue) (identity : String) : Prop :=
  ∃ topic, ⟨.write topic (.externalName identity), .ok ()⟩ ∈ talk

/-- The metadata stay as they are until an identity is recorded; then the annotation is one that
was. -/
theorem Topic.metadata_through (t : Topic) (talk : Dialogue) :
    (t.through talk).metadata = t.metadata ∨
      ∃ identity, talk.Records identity ∧ (t.through talk).identityNote = some identity := by
  induction talk generalizing t with
  | nil => exact .inl rfl
  | cons e rest ih =>
      rcases ih (t.hear e) with hrest | ⟨identity, ⟨topic, hmem⟩, hnote⟩
      · rcases t.metadata_hear e with hfirst | ⟨topic, identity, rfl, hheard⟩
        · exact .inl (hrest.trans hfirst)
        · refine .inr ⟨identity, ⟨topic, List.mem_cons_self⟩, ?_⟩
          rw [hheard] at hrest
          exact (identityNote_congr hrest).trans (identityNote_setExternalName t identity)
      · exact .inr ⟨identity, ⟨topic, List.mem_cons_of_mem _ hmem⟩, hnote⟩

namespace World

variable {w : World} {q : Query} {key place : String}

/-- The region stays as long as no other one is asked for. -/
theorem region_answer (w : World) (hq : ∀ place, q ≠ .connect place) :
    (w.answer q).2.region = w.region := by
  have hcall : ∀ {α : Type} (operation : Operation) (address : String)
      (act : Remote → Except RemoteError α × Remote),
      (w.call operation address act).2.region = w.region := by
    intro α operation address act
    obtain ⟨_, _, _, _, hworld, -⟩ := w.call_eq operation address act
    rw [hworld]
  cases q with
  | fetchAttributes | fetchTags | mutate => exact hcall _ _ _
  | connect place => exact absurd rfl (hq place)
  | now | write | log | patchFinalizers => rfl

/-- An answer leaves a remote topic as it is, unless it is one to a changing call that concerns
it. -/
theorem get?_answer_of_ne (w : World) (hq : ∀ m, q = .mutate m → key ≠ m.target w.region) :
    (w.answer q).2.remote.topics.get? key = w.remote.topics.get? key := by
  by_cases hmutate : ∃ m, q = .mutate m
  · obtain ⟨m, rfl⟩ := hmutate
    obtain ⟨-, ⟨hremote, -⟩ | ⟨hremote, -⟩⟩ := w.answer_mutate m
    · rw [hremote]
      exact w.remote.get?_mutate_of_ne (hq m rfl)
    · rw [hremote]
  · rw [remote_answer fun m hm => hmutate ⟨m, hm⟩]

theorem namesTarget_answer (w : World) (q : Query) :
    Exchange.NamesTarget w.region ⟨q, (w.answer q).1⟩ := by
  intro m identity h
  obtain rfl : q = .mutate m := congrArg Exchange.query h
  replace h : (w.answer (.mutate m)).1 = .ok (.ok identity) := eq_of_heq (Exchange.mk.inj h).2
  obtain ⟨-, ⟨-, hanswer⟩ | ⟨-, hrefused⟩⟩ := w.answer_mutate m
  · exact Remote.target_of_mutate (Except.ok.inj (hanswer.symm.trans h))
  · obtain ⟨e, he, -⟩ := hrefused _ h
    cases he

end World

theorem Query.TellsStatus.fits {q : Query} (h : q.TellsStatus) (t : Topic) : q.Fits t := by
  cases q with
  | now | write | log => trivial
  | _ => exact absurd h not_false

namespace Lifecycle

open Work

/-- A piece of work is one of the two kinds of passes. -/
def IsPass (work : Work Outcome) : Prop := work = reconcile ∨ work = cleanup

variable {t t' m : Topic} {talk : Dialogue} {status : Status} {α : Type}

theorem stage_of_told (h : t.Told status talk t') :
    Stage Query.Fits t talk (.ok () : Except PassError Unit) t' :=
  h.stage.weaken fun t _ hq => hq.fits t

theorem stage_of_converge {done : Except PassError (Outcome × Status)}
    (h : converge.Unfolds t talk done t') : Stage Query.Fits t talk done t' :=
  (converge_staged t _ _ _ h).1.weaken fun _ _ hq => hq.1

theorem stage_of_deletion {result : Except PassError Unit} (h : Deletion t talk result t') :
    Stage Query.Fits t talk result t' :=
  h.stage.weaken fun _ _ hq => hq.fits

/-- Everything that a pass asks is addressed to what the topic names at that moment. -/
theorem pass_stage {work : Work Outcome} (hpass : IsPass work) {result : Except PassError Outcome}
    (h : work.Unfolds t talk result t') : Stage Query.Fits t talk result t' := by
  rcases hpass with rfl | rfl
  · have hreconcile := reconcile_tells t _ _ _ h
    clear h
    cases hreconcile with
    | succeeded hconverge htold _ =>
        refine ((stage_of_converge hconverge).append (stage_of_told htold)).recast ?_
        rintro _ ⟨⟩
    | refused hconverge htold _ cause =>
        refine ((stage_of_converge hconverge).append (stage_of_told htold)).recast ?_
        rintro _ ⟨⟩
        trivial
    | failed now hconverge htold =>
        have hfirst := stage_of_converge hconverge
        refine (hfirst.append (stage_of_told htold)).recast ?_
        rintro _ ⟨⟩
        exact hfirst.genuine _ rfl
  · have hcleanup := cleanup_tells t _ _ _ h
    clear h
    cases hcleanup with
    | refused now htold _ cause =>
        refine (stage_of_told htold).recast ?_
        rintro _ ⟨⟩
        trivial
    | deleted now htold _ hdelete =>
        refine ((stage_of_told htold).append (stage_of_deletion hdelete)).recast ?_
        rintro _ ⟨⟩
    | failed now later htold _ hdelete hfailure =>
        have hsecond := stage_of_deletion hdelete
        have hlast := hsecond.append (stage_of_told hfailure)
        refine ((stage_of_told htold).append hlast).recast ?_
        rintro _ ⟨⟩
        exact hsecond.genuine _ rfl

/-- What a pass does with the identity of a remote topic, where the name of the topic gets one
identity. -/
structure KeepsIdentity (identity : String) (w : World) (t : Topic) (work : Work Outcome) : Prop where
  /-- The annotation changes only to this identity, once the remote topic was created and that was
  recorded. -/
  changed : (w.perform t work).topic.identityNote ≠ t.identityNote →
    (w.perform t work).topic.identityNote = some identity ∧
      (w.exchanges t work).Creates t.anyName identity ∧ (w.exchanges t work).Records identity
  /-- What does not create is addressed to the identity that is recorded at that moment. -/
  addressed : ∀ before m answer after, w.exchanges t work = before ++ .call m answer :: after →
    (∀ name attributes tags, m ≠ .create name attributes tags) →
      (t.through before).externalName = some m.address
  /-- Every other remote topic stays as it is. -/
  others : ∀ key, t.externalName ≠ some key → key ≠ identity →
    (w.perform t work).world.remote.topics.get? key = w.remote.topics.get? key

section Pass

variable {w : World} {work : Work Outcome} {result : Except PassError Outcome}
  {before after : Dialogue} {place identity : String}

theorem fits_at (h : t.Follows Query.Fits talk) {e : Exchange} (he : e ∈ talk) :
    ∃ before after, talk = before ++ e :: after ∧ e.query.Fits (t.through before) := by
  obtain ⟨before, after, rfl⟩ := List.append_of_mem he
  exact ⟨before, after, rfl, h.at⟩

/-- What is addressed to what the topic names connects to no other region. -/
theorem not_connect_of_stage {result : Except PassError α} (h : Stage Query.Fits t talk result t') :
    ∀ e ∈ talk, ∀ place, e.query ≠ .connect place := by
  intro e he place hquery
  obtain ⟨before, -, -, hfits⟩ := fits_at h.follows he
  rw [hquery] at hfits
  exact hfits

theorem not_connect_of_pass (hpass : IsPass work) (h : work.Unfolds t talk result t') :
    ∀ e ∈ talk, ∀ place, e.query ≠ .connect place :=
  not_connect_of_stage (pass_stage hpass h)

/-- In one region a changing call that succeeds is answered with the identity that it concerns. -/
theorem namesTarget_of_pass (hpass : IsPass work) (w : World) (t : Topic) :
    ∀ e ∈ w.exchanges t work, e.NamesTarget w.region := by
  have hanswer (v : World) (q : Query) (hregion : v.region = w.region)
      (hq : ∀ place, q ≠ .connect place) : (v.answer q).2.region = w.region ∧
        Exchange.NamesTarget w.region ⟨q, (v.answer q).1⟩ :=
    ⟨(v.region_answer hq).trans hregion, hregion ▸ v.namesTarget_answer q⟩
  exact (World.perform_keeps (fun v => v.region = w.region)
    (fun q => ∀ place, q ≠ .connect place) (Exchange.NamesTarget w.region) hanswer rfl
    (not_connect_of_pass hpass (w.unfolds t work))).2

/-- What a pass records is the identity that the name of the topic gets, and was created before. -/
theorem created_of_records (hpass : IsPass work) (h : work.Unfolds t talk result t')
    (hnamed : ∀ e ∈ talk, e.NamesTarget place) (hrecords : talk.Records identity) :
    identity = identityFor place t.anyName ∧ talk.Creates t.anyName identity := by
  obtain ⟨topic, hwrite⟩ := hrecords
  have hcreates := (pass_stage hpass h).created _ _ _ hwrite
  obtain ⟨attributes, tags, hcall⟩ := hcreates
  exact ⟨hnamed _ hcall _ _ rfl, attributes, tags, hcall⟩

/-- At any moment of a pass the recorded identity is the one from before or the one that the name of
the topic gets. -/
theorem recorded_during_pass (hpass : IsPass work) (h : work.Unfolds t talk result t')
    (hnamed : ∀ e ∈ talk, e.NamesTarget place) (htalk : talk = before ++ after)
    (hrecorded : (t.through before).externalName = some identity) :
    t.externalName = some identity ∨ identity = identityFor place t.anyName := by
  rcases t.metadata_through before with hsame | ⟨recorded, ⟨topic, hwrite⟩, hnote⟩
  · rw [Topic.externalName_congr hsame] at hrecorded
    exact .inl hrecorded
  · have hrecords : talk.Records recorded := ⟨topic, htalk ▸ List.mem_append_left _ hwrite⟩
    have hsame : identity = recorded :=
      Option.some.inj ((Topic.identityNote_of_externalName hrecorded).symm.trans hnote)
    exact .inr (hsame.trans (created_of_records hpass h hnamed hrecords).1)

/-- A changing call of a pass concerns the recorded identity or the one that the name of the topic
gets. -/
theorem target_during_pass (hpass : IsPass work) (h : work.Unfolds t talk result t')
    (hnamed : ∀ e ∈ talk, e.NamesTarget place) {m : Mutation} {answer : Called String}
    (hcall : .call m answer ∈ talk) :
    t.externalName = some (m.target place) ∨ m.target place = identityFor place t.anyName := by
  obtain ⟨before, after, htalk, hfits⟩ := fits_at (pass_stage hpass h).follows hcall
  cases m with
  | create name attributes tags =>
      obtain rfl : name = _ := hfits
      rw [Topic.anyName_through]
      exact .inr rfl
  | setAttribute | addTags | removeTags | delete =>
      exact recorded_during_pass hpass h hnamed htalk hfits

/-- One pass, whatever happens in it. -/
theorem pass_keeps_identity (hpass : IsPass work) (w : World) (t : Topic) :
    KeepsIdentity (identityFor w.region t.anyName) w t work := by
  have hspeaks := w.unfolds t work
  have hnamed := namesTarget_of_pass hpass w t
  have hstage := pass_stage hpass hspeaks
  refine ⟨fun hchanged => ?_, fun before m answer after htalk hother => ?_, fun key hkey hname => ?_⟩
  · rw [hstage.topic] at hchanged ⊢
    rcases t.metadata_through (w.exchanges t work) with hsame | ⟨identity, hrecords, hnote⟩
    · exact absurd (Topic.identityNote_congr hsame) hchanged
    · obtain ⟨rfl, hcreates⟩ := created_of_records hpass hspeaks hnamed hrecords
      exact ⟨hnote, hcreates, hrecords⟩
  · have hfollows := hstage.follows
    rw [htalk] at hfollows
    have hfits := hfollows.at
    cases m with
    | create name attributes tags => exact absurd rfl (hother name attributes tags)
    | setAttribute | addTags | removeTags | delete => exact hfits
  · have hallowed : ∀ e ∈ w.exchanges t work, (∀ place, e.query ≠ .connect place) ∧
        ∀ m, e.query = .mutate m → key ≠ m.target w.region := by
      rintro e he
      refine ⟨not_connect_of_pass hpass hspeaks e he, ?_⟩
      rintro m hquery rfl
      obtain ⟨query, answer⟩ := e
      obtain rfl : query = .mutate m := hquery
      exact (target_during_pass hpass hspeaks hnamed he).elim hkey hname
    have hend := World.perform_keeps
      (fun v => v.region = w.region ∧ v.remote.topics.get? key = w.remote.topics.get? key)
      (fun q => (∀ place, q ≠ .connect place) ∧ ∀ m, q = .mutate m → key ≠ m.target w.region)
      (fun _ => True) ?_ ⟨rfl, rfl⟩ hallowed
    · exact hend.1.2
    · rintro v q ⟨hregion, hsame⟩ ⟨hconnect, hother⟩
      refine ⟨⟨(v.region_answer hconnect).trans hregion, ?_⟩, trivial⟩
      rw [← hregion] at hother
      exact (v.get?_answer_of_ne hother).trans hsame

end Pass

/-- A topic after some passes over it, each in a world of its own. -/
def topicAfter (w : Nat → World) (work : Nat → Work Outcome) (t : Topic) : Nat → Topic
  | 0 => t
  | n + 1 => ((w n).perform (topicAfter w work t n) (work n)).topic

section Run

variable {place : String} {w : Nat → World} {work : Nat → Work Outcome}

theorem anyName_topicAfter (hpass : ∀ n, IsPass (work n)) (t : Topic) (n : Nat) :
    (topicAfter w work t n).anyName = t.anyName := by
  induction n with
  | zero => rfl
  | succ n ih =>
      have hstage := pass_stage (hpass n) ((w n).unfolds (topicAfter w work t n) (work n))
      have hname := Topic.anyName_through (t := topicAfter w work t n)
        ((w n).exchanges (topicAfter w work t n) (work n))
      rw [← hstage.topic] at hname
      exact hname.trans ih

theorem keepsIdentity_run (hplace : ∀ n, (w n).region = place) (hpass : ∀ n, IsPass (work n))
    (t : Topic) (n : Nat) :
    KeepsIdentity (identityFor place t.anyName) (w n) (topicAfter w work t n) (work n) := by
  rw [← hplace n, ← anyName_topicAfter hpass t n]
  exact pass_keeps_identity (hpass n) _ _

/-- Once the annotation is the identity that the name of the topic gets, it stays so. -/
theorem identityNote_stays (hplace : ∀ n, (w n).region = place) (hpass : ∀ n, IsPass (work n))
    (t : Topic) {n : Nat}
    (h : (topicAfter w work t n).identityNote = some (identityFor place t.anyName)) (k : Nat) :
    (topicAfter w work t (n + k)).identityNote = some (identityFor place t.anyName) := by
  induction k with
  | zero => exact h
  | succ k ih =>
      by_cases hsame : (topicAfter w work t (n + k + 1)).identityNote =
          (topicAfter w work t (n + k)).identityNote
      · exact hsame.trans ih
      · exact ((keepsIdentity_run hplace hpass t (n + k)).changed hsame).1

/-- Over any run of passes in one region, whatever happens in and between them, the annotation
changes at most once, and each pass keeps to the identity that is recorded or that the name of the
topic gets. -/
theorem identity_is_the_only_key (hplace : ∀ n, (w n).region = place)
    (hpass : ∀ n, IsPass (work n)) (t : Topic) :
    (∀ i j, (topicAfter w work t (i + 1)).identityNote ≠ (topicAfter w work t i).identityNote →
      (topicAfter w work t (j + 1)).identityNote ≠ (topicAfter w work t j).identityNote → i = j) ∧
    ∀ n, KeepsIdentity (identityFor place t.anyName) (w n) (topicAfter w work t n) (work n) := by
  have hkeeps := keepsIdentity_run hplace hpass t
  -- After the first change there is no other one.
  have hlast : ∀ i j, i < j →
      (topicAfter w work t (i + 1)).identityNote ≠ (topicAfter w work t i).identityNote →
      (topicAfter w work t (j + 1)).identityNote = (topicAfter w work t j).identityNote := by
    intro i j hij hchanged
    have hset : (topicAfter w work t (i + 1)).identityNote = some (identityFor place t.anyName) :=
      ((hkeeps i).changed hchanged).1
    obtain ⟨k, rfl⟩ := Nat.exists_eq_add_of_lt hij
    have hstays := identityNote_stays hplace hpass t hset
    have hthen := hstays k
    have hlater := hstays (k + 1)
    rw [show i + k + 1 = i + 1 + k by omega]
    exact hlater.trans hthen.symm
  refine ⟨fun i j hi hj => ?_, hkeeps⟩
  rcases Nat.lt_trichotomy i j with hij | hij | hij
  · exact absurd (hlast i j hij hi) hj
  · exact hij
  · exact absurd (hlast j i hij hj) hi

/-- A topic that names a remote topic which is gone: the first pass fails to create one, the second
one creates and records it, and from then on the annotation stays. -/
theorem identity_is_the_only_key_recreated :
    let w : Nat → World := fun n =>
      { region := "us-east-1", clock := ⟨0⟩, remote := { failAt := if n = 0 then some 0 else none } }
    let topic := (Topic.new "orders" { region := "us-east-1" }).setExternalName "orders-legacy"
    let passes := topicAfter w (fun _ => reconcile) topic
    (passes 1).identityNote = some "orders-legacy" ∧
      (passes 2).identityNote = some "arn:aws:sns:us-east-1:000000000000:orders" ∧
      ∀ n, (passes (n + 1)).identityNote ≠ (passes n).identityNote → n = 1 := by
  intro w topic passes
  have hchanged : (passes 2).identityNote ≠ (passes 1).identityNote := by decide
  have hkey := identity_is_the_only_key (w := w) (fun _ => rfl) (fun _ => .inl rfl) topic
  exact ⟨by decide, by decide, fun n hn => hkey.1 n 1 hn hchanged⟩

end Run

end Lifecycle

end TopicOperator
