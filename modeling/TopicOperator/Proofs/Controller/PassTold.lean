import TopicOperator.Proofs.Pass.Frame
import TopicOperator.Proofs.Store.StoredMetadata

/-!
# Dialogues of the controller

What a pass of the controller asks, whoever answers.  First it connects; then it does what the
finalizer of the topic calls for.  From all dialogues of a program it follows what it may ask at each
moment, after what was said before.
-/

namespace TopicOperator

variable {α β : Type}

/-- Whatever a program comes to ask follows a rule, which looks at what was said before. -/
inductive Program.Obeys (rule : Dialogue → Query → Prop) : Dialogue → Program α → Prop
  | done {before : Dialogue} (result : α) : Obeys rule before (.done result)
  | ask {before : Dialogue} {query : Query} {next : query.Answer → Program α}
      (hquery : rule before query)
      (hnext : ∀ answer, Obeys rule (before ++ [⟨query, answer⟩]) (next answer)) :
      Obeys rule before (.ask query next)

/-- A program obeys a rule if all its dialogues follow it to the end. -/
theorem Program.obeys_of_speaks {rule : Dialogue → Query → Prop} {program : Program α}
    {before : Dialogue} (h : ∀ talk result, program.Speaks talk result →
      ∀ first e rest, talk = first ++ e :: rest → rule (before ++ first) e.query) :
    program.Obeys rule before := by
  induction program generalizing before with
  | done result => exact .done result
  | ask query next ih =>
      refine .ask ?_ fun answer => ih answer fun talk result hspeaks first e rest htalk => ?_
      · -- Some dialogue starts with the query.
        let w : World := { region := "", clock := ⟨0⟩ }
        obtain ⟨talk, result, hspeaks, -⟩ := (next (w.answer query).1).exists_speaks ""
        have hfirst := h _ _ (.ask _ hspeaks) [] _ talk rfl
        rwa [List.append_nil] at hfirst
      · have hlater := h _ _ (.ask answer hspeaks) (⟨query, answer⟩ :: first) e rest
          (congrArg (⟨query, answer⟩ :: ·) htalk)
        rwa [List.append_cons] at hlater

/-- A program obeys a rule that does not look at what was said if all its dialogues follow it. -/
theorem Program.obeys_of_forall {allowed : Query → Prop} {program : Program α} {before : Dialogue}
    (h : ∀ talk result, program.Speaks talk result → ∀ e ∈ talk, allowed e.query) :
    program.Obeys (fun _ => allowed) before := by
  refine obeys_of_speaks fun talk result hspeaks first e rest htalk => ?_
  exact h talk result hspeaks e (htalk ▸ List.mem_append_right _ List.mem_cons_self)

/-- A remote topic was deleted, or the remote service did not know it. -/
def Dialogue.Deletes (talk : Dialogue) (identity : String) : Prop :=
  ∃ answer, .call (.delete identity) answer ∈ talk ∧
    Lifecycle.deletionResult identity answer = .ok ()

namespace Query

/-- The finalizers of an object are patched. -/
def PatchesFinalizers : Query → Prop
  | patchFinalizers _ _ _ => True
  | _ => False

/-- If finalizers are patched, it is to add or to remove the finalizer of the operator. -/
def Handles : Query → Prop
  | patchFinalizers _ _ steps => Metadata.HandlesFinalizer steps
  | _ => True

/-- What may be asked about a topic that does not hold the finalizer. -/
def Attaches : Query → Prop
  | connect _ => True
  | patchFinalizers _ _ steps => Metadata.HandlesFinalizer steps
  | _ => False

/-- What may be asked to clean up: to connect, to tell a status, and to delete a remote topic. -/
def Cleans : Query → Prop
  | connect _ | now | log _ | write _ (.status _) | mutate (.delete _) => True
  | _ => False

/-- What may be asked about a topic that holds the finalizer and is being deleted. -/
structure Releases (t : Topic) (before : Dialogue) (q : Query) : Prop where
  keeps : ¬ q.WritesIdentity
  handles : q.Handles
  /-- The remote service is only asked to delete, and only while the finalizer was not touched. -/
  deletes : q.IsRemote → (∃ identity, q = .mutate (.delete identity)) ∧
    ∀ e ∈ before, ¬ e.query.PatchesFinalizers
  /-- The finalizer is touched only after the remote topic was deleted. -/
  last : q.PatchesFinalizers → ∀ identity, t.externalName = some identity → before.Deletes identity

variable {t : Topic} {q : Query}

theorem handles_of_not_patchesFinalizers (h : ¬ q.PatchesFinalizers) : q.Handles := by
  cases q with
  | patchFinalizers => exact absurd trivial h
  | _ => trivial

theorem Attaches.handles (h : q.Attaches) : q.Handles := by
  cases q with
  | patchFinalizers => exact h
  | _ => trivial

theorem Attaches.not_isRemote (h : q.Attaches) : ¬ q.IsRemote := by
  cases q with
  | connect | patchFinalizers => exact not_false
  | _ => exact absurd h not_false

theorem Attaches.not_writesIdentity (h : q.Attaches) : ¬ q.WritesIdentity := by
  cases q with
  | connect | patchFinalizers => exact not_false
  | _ => exact absurd h not_false

theorem Fits.not_patchesFinalizers (h : q.Fits t) : ¬ q.PatchesFinalizers := by
  cases q with
  | patchFinalizers => exact absurd h not_false
  | _ => exact not_false

theorem TellsStatus.cleans (h : q.TellsStatus) : q.Cleans := by
  cases q with
  | write topic change =>
      cases change with
      | status s => trivial
      | parameters | externalName => exact absurd h not_false
  | now | log => trivial
  | _ => exact absurd h not_false

theorem Deletes.cleans (h : q.Deletes t) : q.Cleans := by
  cases q with
  | mutate m =>
      cases m with
      | delete => trivial
      | create | setAttribute | addTags | removeTags => exact absurd h not_false
  | log => trivial
  | _ => exact absurd h not_false

theorem Cleans.not_patchesFinalizers (h : q.Cleans) : ¬ q.PatchesFinalizers := by
  cases q with
  | patchFinalizers => exact absurd h not_false
  | _ => exact not_false

theorem Cleans.not_writesIdentity (h : q.Cleans) : ¬ q.WritesIdentity := by
  cases q with
  | write topic change =>
      cases change with
      | status s => exact not_false
      | parameters | externalName => exact absurd h not_false
  | _ => exact not_false

theorem Cleans.deletes (h : q.Cleans) (hremote : q.IsRemote) :
    ∃ identity, q = .mutate (.delete identity) := by
  cases q with
  | mutate m =>
      cases m with
      | delete identity => exact ⟨identity, rfl⟩
      | create | setAttribute | addTags | removeTags => exact absurd h not_false
  | fetchAttributes | fetchTags => exact absurd h not_false
  | _ => exact absurd hremote not_false

end Query

/-- Telling a status leaves the metadata alone. -/
theorem Topic.Told.metadata_eq {t t' : Topic} {status : Status} {talk : Dialogue}
    (h : t.Told status talk t') : t'.metadata = t.metadata := by
  rw [h.topic]
  rcases t.metadata_through talk with hsame | ⟨identity, ⟨topic, hmem⟩, -⟩
  · exact hsame
  · exact absurd trivial (h.asked _ hmem).not_writesIdentity

/-- A cleanup that succeeds has deleted the recorded remote topic. -/
theorem Lifecycle.cleanup_asks {t t' : Topic} {talk : Dialogue} {outcome : Except PassError Outcome}
    (h : cleanup.Unfolds t talk outcome t') : (∀ e ∈ talk, e.query.Cleans) ∧
      ∀ done, outcome = .ok done → ∀ identity, t.externalName = some identity →
        talk.Deletes identity := by
  have htold : ∀ {m m' : Topic} {status : Status} {talk : Dialogue}, m.Told status talk m' →
      ∀ e ∈ talk, e.query.Cleans := fun hm e he => (hm.asked e he).cleans
  have hdeletion : ∀ {m m' : Topic} {talk : Dialogue} {result : Except PassError Unit},
      Deletion m talk result m' → ∀ e ∈ talk, e.query.Cleans :=
    fun hm => hm.stage.follows.forall_query fun _ _ hq => hq.cleans
  have hpass := cleanup_tells t _ _ _ h
  clear h
  cases hpass with
  | refused now hfirst _ _ => exact ⟨htold hfirst, by rintro _ ⟨⟩⟩
  | deleted now hfirst _ hdelete =>
      refine ⟨List.forall_mem_append.2 ⟨htold hfirst, hdeletion hdelete⟩, ?_⟩
      rintro _ ⟨⟩ identity hname
      rw [← Topic.externalName_congr hfirst.metadata_eq] at hname
      obtain ⟨answer, hmem⟩ := hdelete.called identity hname
      exact ⟨answer, List.mem_append_right _ hmem, (hdelete.answered _ _ hmem).symm⟩
  | failed now later hfirst _ hdelete hfailure =>
      refine ⟨List.forall_mem_append.2 ⟨htold hfirst, List.forall_mem_append.2
        ⟨hdeletion hdelete, htold hfailure⟩⟩, by rintro _ ⟨⟩⟩

namespace Controller

variable {t : Topic}

/-- Whoever answers, guarded work says something and ends as told. -/
def Says (work : Guarded α) (post : Dialogue → Except ControllerError α → Prop) : Prop :=
  ∀ talk result, work.run.Speaks talk result → post talk result

theorem says_pure {value : α} {post : Dialogue → Except ControllerError α → Prop}
    (h : post [] (.ok value)) : Says (pure value) post := by
  intro talk result hspeaks
  obtain ⟨rfl, rfl⟩ := Program.speaks_done_iff.1 hspeaks
  exact h

theorem says_throw {e : ControllerError} {post : Dialogue → Except ControllerError α → Prop}
    (h : post [] (.error e)) : Says (throw e) post := by
  intro talk result hspeaks
  obtain ⟨rfl, rfl⟩ := Program.speaks_done_iff.1 hspeaks
  exact h

theorem says_ask {q : Query} {post : Dialogue → Except ControllerError q.Answer → Prop}
    (h : ∀ answer, post [⟨q, answer⟩] (.ok answer)) : Says (ask q) post := by
  intro talk result hspeaks
  obtain ⟨answer, rest, rfl, hrest⟩ := Program.speaks_ask_iff.1 hspeaks
  obtain ⟨rfl, rfl⟩ := Program.speaks_done_iff.1 hrest
  exact h answer

theorem says_bind {work : Guarded α} {next : α → Guarded β}
    {post : Dialogue → Except ControllerError β → Prop}
    (h : Says work fun talk result =>
      match result with
      | .ok value => Says (next value) fun more => post (talk ++ more)
      | .error e => post talk (.error e)) : Says (work >>= next) post := by
  have hrun : (work >>= next).run = work.run.bind fun
      | .ok value => (next value).run
      | .error e => .done (.error e) := by
    show Program.bind work.run _ = _
    congr 1
    funext outcome
    cases outcome <;> rfl
  intro talk result hspeaks
  rw [hrun, Program.speaks_bind_iff] at hspeaks
  obtain ⟨first, second, value | e, rfl, hfirst, hsecond⟩ := hspeaks
  · obtain ⟨rfl, rfl⟩ := Program.speaks_done_iff.1 hsecond
    rw [List.append_nil]
    exact h _ _ hfirst
  · exact h _ _ hfirst _ _ hsecond

/-- Work on a topic is said as it is, and its error is one of the handling of the finalizer. -/
theorem says_work {job : Work α} {error : PassError → FinalizerError}
    {post : Dialogue → Except ControllerError α → Prop}
    (h : ∀ talk outcome t', job.Unfolds t talk outcome t' →
      post talk (outcome.mapError fun e => .finalizer (error e))) :
    Says (work t job error) post := by
  refine says_bind fun talk result hspeaks => ?_
  change (Program.bind (job.run.run t) fun after =>
    .done (Except.ok (ε := ControllerError) after)).Speaks talk result at hspeaks
  obtain ⟨first, second, ⟨outcome, t'⟩, rfl, hfirst, hsecond⟩ := Program.speaks_bind_iff.1 hspeaks
  obtain ⟨rfl, rfl⟩ := Program.speaks_done_iff.1 hsecond
  have hpost := h first outcome t' hfirst
  rw [← List.append_nil first, ← List.append_nil (first ++ [])] at hpost
  cases outcome with
  | ok value => exact says_pure hpost
  | error e => exact says_throw hpost

theorem says_nameOf {post : Dialogue → Except ControllerError String → Prop}
    (h : ∀ result, post [] result) : Says (nameOf t) post := by
  unfold nameOf
  split
  · exact says_pure (h _)
  · exact says_throw (h _)

theorem says_patchFinalizers {space name : String} {steps : List Json.PatchStep}
    {error : ApiFailure → FinalizerError} {post : Dialogue → Except ControllerError Unit → Prop}
    (h : ∀ answer result, post [⟨.patchFinalizers space name steps, answer⟩] result) :
    Says (patchFinalizers space name steps error) post := by
  refine says_bind (says_ask fun answer => ?_)
  cases answer with
  | ok value => exact says_pure (h _ _)
  | error cause => exact says_throw (h _ _)

/-- What a pass says about a topic once it is connected. -/
inductive Handled (t : Topic) : Dialogue → Prop
  /-- There is nothing to do, or the object has no name to patch it by. -/
  | nothing : Handled t []
  | attached (hheld : ¬ t.metadata.HoldsFinalizer) (space name : String) (held : List String)
      (answer : Except ApiFailure Unit) :
      Handled t [⟨.patchFinalizers space name (additionSteps held), answer⟩]
  | reconciled (hheld : t.metadata.HoldsFinalizer) (hstays : t.metadata.isDeleting = false)
      {talk : Dialogue} {outcome : Except PassError Outcome} {t' : Topic}
      (hwork : Lifecycle.reconcile.Unfolds t talk outcome t') (events : List Event) :
      Handled t (talk ++ events.map fun event => ⟨.log event, ()⟩)
  | cleaned (hheld : t.metadata.HoldsFinalizer) (hdeleting : t.metadata.isDeleting = true)
      {talk : Dialogue} {outcome : Except PassError Outcome} {t' : Topic}
      (hwork : Lifecycle.cleanup.Unfolds t talk outcome t') : Handled t talk
  /-- The finalizer is taken away only when the cleanup succeeded. -/
  | released (hheld : t.metadata.HoldsFinalizer) (hdeleting : t.metadata.isDeleting = true)
      {talk : Dialogue} {outcome : Outcome} {t' : Topic}
      (hwork : Lifecycle.cleanup.Unfolds t talk (.ok outcome) t') (space name : String)
      (position : Nat) (answer : Except ApiFailure Unit) :
      Handled t (talk ++ [⟨.patchFinalizers space name (removalSteps position), answer⟩])

theorem guarded_says (options : ControllerOptions) (space : String) (t : Topic) :
    Says (guarded options space t) fun talk _ => Handled t talk := by
  unfold guarded
  split
  · rename_i position hposition hstays
    have hheld : t.metadata.HoldsFinalizer := List.isSome_idxOf?.1 (by rw [hposition]; rfl)
    refine says_bind (says_work fun talk outcome t' hwork => ?_)
    cases outcome with
    | error e =>
        have hreconciled := Handled.reconciled hheld hstays hwork []
        rwa [List.map_nil, List.append_nil] at hreconciled
    | ok outcome =>
        exact says_bind (says_ask fun _ => says_pure (.reconciled hheld hstays hwork [_]))
  · rename_i position hposition hdeleting
    have hheld : t.metadata.HoldsFinalizer := List.isSome_idxOf?.1 (by rw [hposition]; rfl)
    refine says_bind (says_nameOf fun result => ?_)
    cases result with
    | error e => exact .nothing
    | ok name =>
        refine says_bind (says_work fun talk outcome t' hwork => ?_)
        cases outcome with
        | error e => exact .cleaned hheld hdeleting hwork
        | ok outcome =>
            refine says_bind (says_patchFinalizers fun answer result => ?_)
            have hreleased := Handled.released hheld hdeleting hwork space name position answer
            cases result with
            | error e => exact hreleased
            | ok _ => exact says_pure (by simpa using hreleased)
  · rename_i hposition hstays
    have hheld : ¬ t.metadata.HoldsFinalizer := List.idxOf?_eq_none_iff.1 hposition
    refine says_bind (says_nameOf fun result => ?_)
    cases result with
    | error e => exact .nothing
    | ok name =>
        refine says_bind (says_patchFinalizers fun answer result => ?_)
        have hattached := Handled.attached hheld space name t.metadata.finalizerList answer
        cases result with
        | error e => exact hattached
        | ok _ => exact says_pure hattached
  · exact says_pure .nothing

/-- What a pass says: nothing if the topic has no namespace, and else that it connects before all. -/
theorem pass_says (options : ControllerOptions) (t : Topic) :
    Says (pass options t) fun talk _ => talk = [] ∨ ∃ region answer rest,
      talk = ⟨.connect region, answer⟩ :: rest ∧ Handled t rest := by
  unfold pass
  split
  · exact says_throw (.inl rfl)
  · refine says_bind (says_ask fun answer => ?_)
    cases answer with
    | error cause => exact says_throw (.inr ⟨_, _, [], rfl, .nothing⟩)
    | ok _ =>
        intro talk result hspeaks
        exact .inr ⟨_, _, talk, rfl, guarded_says _ _ _ talk result hspeaks⟩

variable {options : ControllerOptions}

/-- A pass over a topic without the finalizer does nothing but to add it. -/
theorem pass_obeys_attach (hheld : ¬ t.metadata.HoldsFinalizer) (before : Dialogue) :
    (pass options t).run.Obeys (fun _ => Query.Attaches) before := by
  refine Program.obeys_of_forall fun talk result hspeaks => ?_
  rcases pass_says options t talk result hspeaks with rfl | ⟨region, answer, rest, rfl, hrest⟩
  · exact fun _ he => absurd he List.not_mem_nil
  · refine List.forall_mem_cons.2 ⟨trivial, ?_⟩
    cases hrest with
    | nothing => exact fun _ he => absurd he List.not_mem_nil
    | attached _ space name held answer =>
        exact List.forall_mem_singleton.2 (.addition held)
    | reconciled hholds | cleaned hholds | released hholds => exact absurd hholds hheld

/-- A pass over a topic that holds the finalizer and is not being deleted leaves it alone. -/
theorem pass_obeys_reconcile (hheld : t.metadata.HoldsFinalizer)
    (hstays : t.metadata.isDeleting = false) (before : Dialogue) :
    (pass options t).run.Obeys (fun _ q => ¬ q.PatchesFinalizers) before := by
  refine Program.obeys_of_forall fun talk result hspeaks => ?_
  rcases pass_says options t talk result hspeaks with rfl | ⟨region, answer, rest, rfl, hrest⟩
  · exact fun _ he => absurd he List.not_mem_nil
  · refine List.forall_mem_cons.2 ⟨not_false, ?_⟩
    cases hrest with
    | nothing => exact fun _ he => absurd he List.not_mem_nil
    | attached hfree => exact absurd hheld hfree
    | reconciled _ _ hwork events =>
        have hfits := (Lifecycle.pass_stage (.inl rfl) hwork).follows.forall_query
          fun _ _ hq => hq.not_patchesFinalizers
        refine List.forall_mem_append.2 ⟨hfits, fun e he => ?_⟩
        obtain ⟨event, -, rfl⟩ := List.mem_map.1 he
        exact not_false
    | cleaned _ hdeleting | released _ hdeleting => exact absurd (hstays.symm.trans hdeleting) nofun

/-- A pass over a topic that holds the finalizer and is being deleted takes it away only after the
remote topic was deleted. -/
theorem pass_obeys_release (hheld : t.metadata.HoldsFinalizer)
    (hdeleting : t.metadata.isDeleting = true) :
    (pass options t).run.Obeys (Query.Releases t) [] := by
  have hclean : ∀ {talk : Dialogue}, (∀ e ∈ talk, e.query.Cleans) → ∀ first e rest,
      talk = first ++ e :: rest → e.query.Releases t first := by
    rintro _ hcleans first e rest rfl
    have hq := hcleans e (List.mem_append_right _ List.mem_cons_self)
    have hfirst : ∀ e ∈ first, ¬ e.query.PatchesFinalizers := fun e he =>
      (hcleans e (List.mem_append_left _ he)).not_patchesFinalizers
    exact ⟨hq.not_writesIdentity, Query.handles_of_not_patchesFinalizers hq.not_patchesFinalizers,
      fun hremote => ⟨hq.deletes hremote, hfirst⟩, fun hpatch => absurd hpatch hq.not_patchesFinalizers⟩
  refine Program.obeys_of_speaks fun talk result hspeaks => ?_
  rcases pass_says options t talk result hspeaks with rfl | ⟨region, answer, rest, rfl, hrest⟩
  · exact hclean fun _ he => absurd he List.not_mem_nil
  · cases hrest with
    | nothing => exact hclean (List.forall_mem_singleton.2 trivial)
    | attached hfree => exact absurd hheld hfree
    | reconciled _ hstays => exact absurd (hstays.symm.trans hdeleting) nofun
    | cleaned _ _ hwork =>
        exact hclean (List.forall_mem_cons.2 ⟨trivial, (Lifecycle.cleanup_asks hwork).1⟩)
    | @released _ _ talk outcome t' hwork space name position reply =>
        obtain ⟨hcleans, hdeleted⟩ := Lifecycle.cleanup_asks hwork
        have hfront : ∀ e ∈ (⟨.connect region, answer⟩ :: talk : Dialogue), e.query.Cleans :=
          List.forall_mem_cons.2 ⟨trivial, hcleans⟩
        intro first e rest htalk
        change (⟨.connect region, answer⟩ :: talk) ++ [_] = _ at htalk
        rcases List.eq_nil_or_concat rest with rfl | ⟨rest, last, rfl⟩
        · -- The patch of the finalizers comes behind the whole cleanup.
          obtain ⟨rfl, hlast⟩ := List.append_inj' htalk rfl
          obtain rfl := List.singleton_inj.1 hlast
          refine ⟨not_false, .removal position, fun hremote => absurd hremote not_false, ?_⟩
          intro _ identity hname
          obtain ⟨deletion, hmem, hdone⟩ := hdeleted outcome rfl identity hname
          exact ⟨deletion, List.mem_cons_of_mem _ hmem, hdone⟩
        · rw [List.concat_eq_append, ← List.cons_append, ← List.append_assoc] at htalk
          exact hclean hfront first e rest (List.append_inj' htalk rfl).1

end Controller

end TopicOperator
