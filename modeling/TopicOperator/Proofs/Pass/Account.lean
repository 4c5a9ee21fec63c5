import TopicOperator.Proofs.Pass.Calm
import TopicOperator.Proofs.Remote.Revision
import TopicOperator.Proofs.Work.Dialogue

/-!
# Stages of a pass as dialogues

What a pass asks, and how the topic follows from the answers.  The topic of a pass is at every
moment the one that it started with, changed by what was said so far; so a rule for what may be
asked can look at the topic at that moment.  A stage is a part of a pass whose questions follow a
rule, and stages of the same rule can be put together.
-/

namespace TopicOperator

variable {α β : Type}

namespace Topic

/-- A topic after one exchange about it.  Parameters are changed before they are written back,
identity and status only once they were written. -/
def hear (topic : Topic) : Exchange → Topic
  | ⟨.write _ (.parameters p), _⟩ => topic.withParameters p
  | ⟨.write _ (.externalName identity), .ok ()⟩ => topic.setExternalName identity
  | ⟨.write _ (.status s), .ok ()⟩ => topic.withStatus s
  | _ => topic

/-- A topic after a dialogue about it. -/
def through (topic : Topic) (talk : Dialogue) : Topic :=
  talk.foldl hear topic

/-- What is asked in a dialogue about a topic follows a rule, which looks at the topic as it is at
the moment of the question. -/
def Follows (rule : Topic → Query → Prop) : Topic → Dialogue → Prop
  | _, [] => True
  | topic, e :: talk => rule topic e.query ∧ Follows rule (topic.hear e) talk

end Topic

/-- The exchange of a changing call. -/
abbrev Exchange.call (m : Mutation) (answer : Called String) : Exchange := ⟨.mutate m, answer⟩

namespace Query

/-- Something is written back. -/
def IsWrite : Query → Prop
  | write _ _ => True
  | _ => False

/-- A status is written back. -/
def WritesStatus : Query → Prop
  | write _ (.status _) => True
  | _ => False

/-- An identity is written back. -/
def WritesIdentity : Query → Prop
  | write _ (.externalName _) => True
  | _ => False

theorem WritesStatus.isWrite {q : Query} (h : q.WritesStatus) : q.IsWrite := by
  cases q with
  | write topic change => trivial
  | _ => exact absurd h not_false

theorem WritesIdentity.isWrite {q : Query} (h : q.WritesIdentity) : q.IsWrite := by
  cases q with
  | write topic change => trivial
  | _ => exact absurd h not_false

/-- The remote service is called. -/
def IsRemote : Query → Prop
  | fetchAttributes _ | fetchTags _ | mutate _ => True
  | _ => False

/-- A query is addressed to what the topic names: a creation to its name, every other call to the
identity that it records. -/
def Fits (t : Topic) : Query → Prop
  | fetchAttributes identity | fetchTags identity => t.externalName = some identity
  | mutate (.create name _ _) => name = t.anyName
  | mutate m => t.externalName = some m.address
  | now | write _ _ | log _ => True
  | connect _ | patchFinalizers _ _ _ => False

end Query

namespace Topic

variable {t : Topic} {rule : Topic → Query → Prop}

theorem hear_of_not_isWrite {e : Exchange} (h : ¬ e.query.IsWrite) : t.hear e = t := by
  obtain ⟨query, answer⟩ := e
  cases query with
  | write topic change => exact absurd trivial h
  | _ => rfl

theorem status_hear {e : Exchange} (h : ¬ e.query.WritesStatus) : (t.hear e).status = t.status := by
  obtain ⟨query, answer⟩ := e
  cases query with
  | write topic change =>
      cases change with
      | status s => exact absurd trivial h
      | parameters p => rfl
      | externalName identity => cases answer <;> rfl
  | _ => rfl

/-- Nothing changes the metadata but an identity that was written back. -/
theorem metadata_hear (t : Topic) (e : Exchange) : (t.hear e).metadata = t.metadata ∨
    ∃ topic identity, e = ⟨.write topic (.externalName identity), .ok ()⟩ ∧
      t.hear e = t.setExternalName identity := by
  obtain ⟨query, answer⟩ := e
  cases query with
  | write topic change =>
      cases change with
      | status s => cases answer <;> exact .inl rfl
      | parameters p => exact .inl rfl
      | externalName identity =>
          cases answer with
          | ok _ => exact .inr ⟨topic, identity, rfl, rfl⟩
          | error cause => exact .inl rfl
  | _ => exact .inl rfl

theorem anyName_hear (e : Exchange) : (t.hear e).anyName = t.anyName := by
  obtain ⟨query, answer⟩ := e
  cases query with
  | write topic change =>
      cases change with
      | status s => cases answer <;> rfl
      | parameters p => rfl
      | externalName identity => cases answer <;> rfl
  | _ => rfl

theorem through_append (first second : Dialogue) :
    t.through (first ++ second) = (t.through first).through second :=
  List.foldl_append

theorem through_of_not_isWrite {talk : Dialogue} (h : ∀ e ∈ talk, ¬ e.query.IsWrite) :
    t.through talk = t := by
  induction talk with
  | nil => rfl
  | cons e rest ih =>
      obtain ⟨hfirst, hrest⟩ := List.forall_mem_cons.1 h
      show (t.hear e).through rest = t
      rw [hear_of_not_isWrite hfirst]
      exact ih hrest

theorem anyName_through (talk : Dialogue) : (t.through talk).anyName = t.anyName := by
  induction talk generalizing t with
  | nil => rfl
  | cons e rest ih => exact (ih (t := t.hear e)).trans (anyName_hear e)

theorem follows_append {first second : Dialogue} : t.Follows rule (first ++ second) ↔
    t.Follows rule first ∧ (t.through first).Follows rule second := by
  induction first generalizing t with
  | nil => simp [Follows, through]
  | cons e rest ih =>
      simp only [List.cons_append, Follows, ih, and_assoc]
      rfl

/-- What follows a rule does so at each moment. -/
theorem Follows.at {before after : Dialogue} {e : Exchange}
    (h : t.Follows rule (before ++ e :: after)) : rule (t.through before) e.query :=
  (follows_append.1 h).2.1

theorem Follows.weaken {rule' : Topic → Query → Prop} {talk : Dialogue} (h : t.Follows rule talk)
    (himp : ∀ t q, rule t q → rule' t q) : t.Follows rule' talk := by
  induction talk generalizing t with
  | nil => trivial
  | cons e rest ih => exact ⟨himp _ _ h.1, ih h.2⟩

/-- Questions that follow a rule are allowed by what the rule says whatever the topic is. -/
theorem Follows.forall_query {allowed : Query → Prop} {talk : Dialogue} (h : t.Follows rule talk)
    (himp : ∀ t q, rule t q → allowed q) : ∀ e ∈ talk, allowed e.query := by
  induction talk generalizing t with
  | nil => exact fun _ he => absurd he List.not_mem_nil
  | cons e rest ih => exact List.forall_mem_cons.2 ⟨himp _ _ h.1, ih h.2⟩

theorem follows_of_forall_query {allowed : Query → Prop} {talk : Dialogue}
    (h : ∀ e ∈ talk, allowed e.query) : t.Follows (fun _ => allowed) talk := by
  induction talk generalizing t with
  | nil => trivial
  | cons e rest ih =>
      obtain ⟨hfirst, hrest⟩ := List.forall_mem_cons.1 h
      exact ⟨hfirst, ih hrest⟩

/-- Where nothing is written the topic stays the one that the rule looks at. -/
theorem follows_of_not_isWrite {talk : Dialogue}
    (h : ∀ e ∈ talk, rule t e.query ∧ ¬ e.query.IsWrite) : t.Follows rule talk := by
  induction talk with
  | nil => trivial
  | cons e rest ih =>
      obtain ⟨⟨hrule, hwrite⟩, hrest⟩ := List.forall_mem_cons.1 h
      refine ⟨hrule, ?_⟩
      rw [hear_of_not_isWrite hwrite]
      exact ih hrest

theorem status_through {talk : Dialogue} (h : ∀ e ∈ talk, ¬ e.query.WritesStatus) :
    (t.through talk).status = t.status := by
  induction talk generalizing t with
  | nil => rfl
  | cons e rest ih =>
      obtain ⟨hfirst, hrest⟩ := List.forall_mem_cons.1 h
      exact (ih (t := t.hear e) hrest).trans (status_hear hfirst)

end Topic

/-- An error that some work can really fail with: a call that is cut short is one of the remote
service. -/
def PassError.Genuine : PassError → Prop
  | .cancelled name | .timedOut name _ => ∃ operation : Operation, name = operation.name
  | _ => True

theorem Interruption.genuine_failure (operation : Operation) (i : Interruption) :
    (i.failure operation).Genuine := by
  cases i with
  | cancelled | timedOut => exact ⟨operation, rfl⟩

/-- The attributes that were read, one after the other. -/
def Dialogue.attributesRead (talk : Dialogue) : List ObservedAttributes :=
  talk.filterMap fun
    | ⟨.fetchAttributes _, .ok (.ok attributes)⟩ => some attributes
    | _ => none

@[simp] theorem Dialogue.attributesRead_append (first second : Dialogue) :
    attributesRead (first ++ second) = attributesRead first ++ attributesRead second :=
  List.filterMap_append

/-- A topic of some name was created, and this was answered with an identity. -/
def Dialogue.Creates (talk : Dialogue) (name identity : String) : Prop :=
  ∃ attributes tags, .call (.create name attributes tags) (.ok (.ok identity)) ∈ talk

/-- Whenever an identity is to be recorded it is the one of a topic of some name that was
created. -/
def Dialogue.RecordsCreated (talk : Dialogue) (name : String) : Prop :=
  ∀ topic identity answer, ⟨.write topic (.externalName identity), answer⟩ ∈ talk →
    talk.Creates name identity

theorem Dialogue.recordsCreated_of_not_writesIdentity {talk : Dialogue} {name : String}
    (h : ∀ e ∈ talk, ¬ e.query.WritesIdentity) : talk.RecordsCreated name :=
  fun _ _ _ hmem => absurd trivial (h _ hmem)

/-- A part of a pass over a topic: it asks by a rule, and the topic becomes what was said. -/
structure Stage (rule : Topic → Query → Prop) (t : Topic) (talk : Dialogue)
    (result : Except PassError α) (t' : Topic) : Prop where
  topic : t' = t.through talk
  follows : t.Follows rule talk
  created : talk.RecordsCreated t.anyName
  genuine : ∀ e, result = .error e → e.Genuine

namespace Stage

variable {rule rule' : Topic → Query → Prop} {t m t' : Topic} {talk first second : Dialogue}

theorem append {earlier : Except PassError α} {result : Except PassError β}
    (hfirst : Stage rule t first earlier m) (hsecond : Stage rule m second result t') :
    Stage rule t (first ++ second) result t' := by
  obtain rfl := hfirst.topic
  refine ⟨?_, Topic.follows_append.2 ⟨hfirst.follows, hsecond.follows⟩, ?_, hsecond.genuine⟩
  · rw [Topic.through_append]
    exact hsecond.topic
  · intro topic identity answer hwrite
    rcases List.mem_append.1 hwrite with hwrite | hwrite
    · obtain ⟨attributes, tags, hmem⟩ := hfirst.created _ _ _ hwrite
      exact ⟨attributes, tags, List.mem_append_left _ hmem⟩
    · obtain ⟨attributes, tags, hmem⟩ := hsecond.created _ _ _ hwrite
      rw [Topic.anyName_through] at hmem
      exact ⟨attributes, tags, List.mem_append_right _ hmem⟩

theorem weaken {result : Except PassError α} (h : Stage rule t talk result t')
    (himp : ∀ t q, rule t q → rule' t q) : Stage rule' t talk result t' :=
  ⟨h.topic, h.follows.weaken himp, h.created, h.genuine⟩

/-- Where no status is written the topic keeps its status. -/
theorem status_eq {result : Except PassError α} (h : Stage rule t talk result t')
    (hsilent : ∀ t q, rule t q → ¬ q.WritesStatus) : t'.status = t.status := by
  rw [h.topic]
  exact Topic.status_through (h.follows.forall_query hsilent)

/-- Where nothing is written the topic stays as it is. -/
theorem topic_eq {result : Except PassError α} (h : Stage rule t talk result t')
    (hreads : ∀ t q, rule t q → ¬ q.IsWrite) : t' = t := by
  rw [h.topic]
  exact Topic.through_of_not_isWrite (h.follows.forall_query hreads)

/-- What a stage results in does not matter to it, as long as it is no impossible error. -/
theorem recast {result : Except PassError α} {other : Except PassError β}
    (h : Stage rule t talk result t') (hgenuine : ∀ e, other = .error e → e.Genuine) :
    Stage rule t talk other t' :=
  ⟨h.topic, h.follows, h.created, hgenuine⟩

/-- Questions that write nothing back leave the topic as it is. -/
theorem of_not_isWrite {result : Except PassError α}
    (h : ∀ e ∈ talk, rule t e.query ∧ ¬ e.query.IsWrite)
    (hgenuine : ∀ e, result = .error e → e.Genuine) : Stage rule t talk result t :=
  ⟨(Topic.through_of_not_isWrite fun e he => (h e he).2).symm, Topic.follows_of_not_isWrite h,
    Dialogue.recordsCreated_of_not_writesIdentity fun e he hidentity =>
      (h e he).2 hidentity.isWrite, hgenuine⟩

theorem nil {result : Except PassError α} (hgenuine : ∀ e, result = .error e → e.Genuine) :
    Stage rule t [] result t :=
  of_not_isWrite (fun _ he => absurd he List.not_mem_nil) hgenuine

theorem single {e : Exchange} {result : Except PassError α} (hrule : rule t e.query)
    (hwrite : ¬ e.query.IsWrite) (hgenuine : ∀ e, result = .error e → e.Genuine) :
    Stage rule t [e] result t :=
  of_not_isWrite (List.forall_mem_singleton.2 ⟨hrule, hwrite⟩) hgenuine

end Stage

/-- Work on a topic is a stage, which ends as told if it succeeds. -/
def Work.Staged (rule : Topic → Query → Prop) (t : Topic) (work : Work α)
    (post : Dialogue → α → Topic → Prop) : Prop :=
  work.Tells t fun talk result t' =>
    Stage rule t talk result t' ∧ ∀ value, result = .ok value → post talk value t'

namespace Work.Staged

variable {rule : Topic → Query → Prop} {t : Topic} {work : Work α}
  {post post' : Dialogue → α → Topic → Prop}

theorem weaken (h : work.Staged rule t post)
    (himp : ∀ talk value t', post talk value t' → post' talk value t') :
    work.Staged rule t post' :=
  Tells.mono h fun talk _ t' hend =>
    ⟨hend.1, fun value hvalue => himp talk value t' (hend.2 value hvalue)⟩

/-- What follows a rule follows a weaker one. -/
theorem weakenRule {rule' : Topic → Query → Prop} (h : work.Staged rule t post)
    (himp : ∀ t q, rule t q → rule' t q) : work.Staged rule' t post :=
  Tells.mono h fun _ _ _ hend => ⟨hend.1.weaken himp, hend.2⟩

/-- That work is a stage may be used where it ends. -/
theorem known (h : work.Staged rule t post) : work.Staged rule t fun talk value t' =>
    Stage rule t talk (.ok value : Except PassError α) t' ∧ post talk value t' :=
  Tells.mono h fun _ _ _ hend =>
    ⟨hend.1, fun value hvalue => ⟨hvalue ▸ hend.1, hend.2 value hvalue⟩⟩

theorem pure {value : α} (h : post [] value t) : (Pure.pure value : Work α).Staged rule t post := by
  refine tells_pure_iff.2 ⟨.nil (by rintro _ ⟨⟩), ?_⟩
  rintro _ ⟨⟩
  exact h

theorem throw {e : PassError} (h : e.Genuine) :
    (throwThe PassError e : Work α).Staged rule t post := by
  refine tells_throw_iff.2 ⟨.nil ?_, by rintro _ ⟨⟩⟩
  rintro _ ⟨⟩
  exact h

theorem bind {middle : Dialogue → α → Topic → Prop} {next : α → Work β}
    {post : Dialogue → β → Topic → Prop} (hfirst : work.Staged rule t middle)
    (hnext : ∀ talk value m, middle talk value m →
      (next value).Staged rule m fun more => post (talk ++ more)) :
    (work >>= next).Staged rule t post := by
  refine tells_bind_iff.2 (Tells.mono hfirst ?_)
  rintro talk (e | value) m ⟨hstage, hmiddle⟩
  · refine ⟨hstage.recast ?_, by rintro _ ⟨⟩⟩
    rintro _ ⟨⟩
    exact hstage.genuine _ rfl
  · refine Tells.mono (hnext talk value m (hmiddle value rfl)) ?_
    rintro more result t' ⟨hmore, hpost⟩
    exact ⟨hstage.append hmore, hpost⟩

theorem get_bind {next : Topic → Work α} (h : (next t).Staged rule t post) :
    (MonadState.get >>= next).Staged rule t post := by
  have hget : (MonadState.get : Work Topic).Staged rule t fun talk topic t' =>
      talk = [] ∧ topic = t ∧ t' = t := pure ⟨rfl, rfl, rfl⟩
  refine hget.bind ?_
  rintro _ _ _ ⟨rfl, rfl, rfl⟩
  exact h

theorem ask {q : Query} (hrule : rule t q) (hwrite : ¬ q.IsWrite) :
    (Work.ask q).Staged rule t fun talk answer t' => talk = [⟨q, answer⟩] ∧ t' = t := by
  refine tells_ask_iff.2 fun answer => ⟨.single hrule hwrite (by rintro _ ⟨⟩), ?_⟩
  rintro _ ⟨⟩
  exact ⟨rfl, rfl⟩

theorem orElse_bind {ε : Type} {answer : Except ε α} {error : ε → PassError} {next : α → Work β}
    {post : Dialogue → β → Topic → Prop} (hgenuine : ∀ cause, (error cause).Genuine)
    (h : ∀ value, answer = .ok value → (next value).Staged rule t post) :
    (Work.orElse answer error >>= next).Staged rule t post := by
  cases answer with
  | ok value => exact h value rfl
  | error cause => exact throw (hgenuine cause)

theorem called_bind {operation : Operation} {answer : Called α}
    {next : Except RemoteError α → Work β} {post : Dialogue → β → Topic → Prop}
    (h : ∀ reply, answer = .ok reply → (next reply).Staged rule t post) :
    (Work.called operation answer >>= next).Staged rule t post := by
  cases answer with
  | ok reply => exact h reply rfl
  | error interruption =>
      cases interruption with
      | cancelled | timedOut => exact throw ⟨operation, rfl⟩

theorem mutate_bind {m : Mutation} {next : Except RemoteError String → Work α}
    (hrule : rule t (.mutate m)) (h : ∀ reply, (next reply).Staged rule t fun more =>
      post (⟨.mutate m, .ok reply⟩ :: more)) : (Work.mutate m >>= next).Staged rule t post := by
  rw [Work.mutate, bind_assoc]
  refine (ask hrule not_false).bind ?_
  rintro _ answer _ ⟨rfl, rfl⟩
  refine called_bind ?_
  rintro reply rfl
  exact h reply

end Work.Staged

/-- Work leaves the topic as it is and reads no attributes. -/
def Quietly (t : Topic) (talk : Dialogue) (_ : α) (t' : Topic) : Prop :=
  t' = t ∧ talk.attributesRead = []

namespace Work.Staged

variable {rule : Topic → Query → Prop} {t : Topic} {work : Work α}

theorem log (hrule : ∀ event, rule t (.log event)) (level : Level) (message : String)
    (fields : List (String × String)) :
    (Work.log level message fields).Staged rule t (Quietly t) :=
  (ask (hrule _) not_false).weaken fun _ _ _ ⟨htalk, htopic⟩ => ⟨htopic, htalk ▸ rfl⟩

theorem andThen {next : α → Work β} (hfirst : work.Staged rule t (Quietly t))
    (hnext : ∀ value, (next value).Staged rule t (Quietly t)) :
    (work >>= next).Staged rule t (Quietly t) := by
  refine hfirst.bind ?_
  rintro talk value m ⟨rfl, htalk⟩
  refine (hnext value).weaken ?_
  rintro more _ t' ⟨htopic, hmore⟩
  exact ⟨htopic, by rw [Dialogue.attributesRead_append, htalk, hmore, List.append_nil]⟩

/-- A changing call that must succeed, before other work. -/
theorem call {next : Work α} (hnext : next.Staged rule t (Quietly t)) {m : Mutation}
    (hrule : rule t (.mutate m)) (error : RemoteError → PassError)
    (hgenuine : ∀ cause, (error cause).Genuine) :
    (do let _ ← Work.orElse (← Work.mutate m) error; next).Staged rule t (Quietly t) :=
  mutate_bind hrule fun _ => orElse_bind hgenuine fun _ _ => hnext

/-- A changing call before other work, made only where there is something to do. -/
theorem callUnless {next : Work α} (hnext : next.Staged rule t (Quietly t)) (idle : Bool)
    {m : Mutation} (hrule : rule t (.mutate m)) (error : RemoteError → PassError)
    (hgenuine : ∀ cause, (error cause).Genuine) :
    (if idle then next else do let _ ← Work.orElse (← Work.mutate m) error; next).Staged rule t
      (Quietly t) := by
  cases idle with
  | true => exact hnext
  | false => exact hnext.call hrule error hgenuine

end Work.Staged

/-- What may be asked to bring a remote topic into line: anything that fits, but no status is
written. -/
def Query.Converges (t : Topic) (q : Query) : Prop :=
  q.Fits t ∧ ¬ q.WritesStatus

/-- What may be asked before the time is needed. -/
def Query.Approaches (t : Topic) (q : Query) : Prop :=
  q.Converges t ∧ q ≠ .now

/-- A pass did nothing else than to bring a remote topic into line that is there. -/
def Outcome.Aligned : Outcome → Prop
  | .unchanged | .updated _ _ _ => True
  | .created _ | .deleted => False

/-- A remote topic that was seen is the recorded one, and its attributes are the only ones read. -/
def Sighting.ReadBy (read : List ObservedAttributes) (t : Topic) : Sighting → Prop
  | .absent => True
  | .present identity snapshot _ _ =>
      t.externalName = some identity ∧ read = [snapshot.attributes]

namespace Lifecycle

open Work

variable {t : Topic} {identity : String}

theorem approaches_log (t : Topic) (event : Event) : Query.Approaches t (.log event) :=
  ⟨⟨trivial, not_false⟩, nofun⟩

theorem approaches_revision (hname : t.externalName = some identity) {m : Mutation}
    (hm : m.Revises identity) : Query.Approaches t (.mutate m) := by
  refine ⟨⟨?_, not_false⟩, nofun⟩
  cases m with
  | setAttribute | addTags | removeTags =>
      obtain rfl := hm
      exact hname
  | create | delete => exact absurd hm not_false

section Update

variable {rule : Topic → Query → Prop} (hlog : ∀ event, rule t (.log event))
  (hrevise : ∀ m : Mutation, m.Revises identity → rule t (.mutate m))

include hlog hrevise

theorem setAttributes_staged (changes : List (Attribute × String)) :
    (setAttributes identity changes).Staged rule t (Quietly t) := by
  induction changes with
  | nil => exact .pure ⟨rfl, rfl⟩
  | cons change rest ih =>
      have hupdated := Staged.log hlog .debug "updated attribute" [("attribute", change.1.name)]
      have hrule : rule t (.mutate (.setAttribute identity change.1.name change.2)) := hrevise _ rfl
      exact (hupdated.andThen fun _ => ih).call hrule (.updateAttribute change.1) fun _ => trivial

/-- An update asks for revisions of the topic of an identity, and logs events. -/
theorem update_staged (verdict : Verdict) :
    (update identity verdict).Staged rule t (Quietly t) := by
  -- The work is put together from its end.
  have hlast := Staged.log hlog .info "updated remote topic" [("identity", identity),
    ("attributes", Number.decimal verdict.attributes.toList.length),
    ("tags_added", Number.decimal verdict.tags.toAdd.size),
    ("tags_removed", Number.decimal verdict.tags.toRemove.size)]
  have hadds : rule t (.mutate (.addTags identity verdict.tags.tagsToAdd)) := hrevise _ rfl
  have hadd := hlast.callUnless verdict.tags.toAdd.isEmpty hadds .addTags fun _ => trivial
  have hremoves : rule t (.mutate (.removeTags identity verdict.tags.keysToRemove)) := hrevise _ rfl
  have hremove := hadd.callUnless verdict.tags.toRemove.isEmpty hremoves
    (.removeTags verdict.tags.keysToRemove) fun _ => trivial
  exact (setAttributes_staged hlog hrevise _).andThen fun _ => hremove

end Update

theorem align_staged (hname : t.externalName = some identity) (snapshot : Snapshot)
    (upToDate : Bool) : (align identity snapshot upToDate).Staged Query.Approaches t
      fun talk outcome t' => Quietly t talk outcome t' ∧ outcome.Aligned := by
  cases upToDate with
  | true => exact .pure ⟨⟨rfl, rfl⟩, trivial⟩
  | false =>
      have hupdate := update_staged (approaches_log t) (fun _ => approaches_revision hname)
      refine .get_bind (.bind (hupdate _) ?_)
      rintro talk _ _ ⟨rfl, htalk⟩
      exact .pure ⟨⟨rfl, by rw [List.append_nil]; exact htalk⟩, trivial⟩

theorem fillParameters_staged (t : Topic) (snapshot : Snapshot) :
    (fillParameters snapshot).Staged Query.Approaches t fun talk _ t' =>
      t'.externalName = t.externalName ∧ talk.attributesRead = [] := by
  refine .get_bind ?_
  dsimp only
  split
  · -- The topic has the parameters already when they are written back.
    have hstage : ∀ level message fields answer (result : Except PassError Bool),
        (∀ e, result = .error e → e.Genuine) →
        Stage Query.Approaches t
          [⟨.log ⟨level, message, fields⟩, ()⟩,
            ⟨.write (t.completedBy snapshot) (.parameters (t.parameters.completedBy snapshot)),
              answer⟩]
          result (t.completedBy snapshot) := by
      intro level message fields answer result hgenuine
      refine ⟨rfl, ⟨approaches_log t _, ⟨⟨trivial, not_false⟩, nofun⟩, trivial⟩, ?_, hgenuine⟩
      apply Dialogue.recordsCreated_of_not_writesIdentity
      rintro e he
      rcases List.mem_pair.1 he with rfl | rfl
      · exact not_false
      · exact not_false
    unfold Staged
    simp only [tells_bind_iff, tells_modify_iff, tells_log_iff, tells_write_iff, tells_pure_iff]
    rintro (cause | _)
    · refine ⟨hstage _ _ _ _ _ ?_, by rintro _ ⟨⟩⟩
      rintro _ ⟨⟩
      trivial
    · refine ⟨hstage _ _ _ _ _ (by rintro _ ⟨⟩), ?_⟩
      rintro _ ⟨⟩
      exact ⟨rfl, rfl⟩
  · exact .pure ⟨rfl, rfl⟩

theorem observeTags_staged (hname : t.externalName = some identity)
    (attributes : ObservedAttributes) :
    (observeTags identity attributes).Staged Query.Approaches t fun talk sighting t' =>
      sighting.ReadBy (attributes :: talk.attributesRead) t' := by
  refine (Staged.ask (q := .fetchTags identity) ⟨⟨hname, not_false⟩, nofun⟩ not_false).bind ?_
  rintro _ answer _ ⟨rfl, rfl⟩
  refine .called_bind ?_
  rintro (cause | tags) rfl
  · dsimp only
    split
    · exact (Staged.log (approaches_log _) _ _ _).bind fun _ _ _ _ => .pure trivial
    · exact .throw trivial
  · refine (fillParameters_staged _ _).bind ?_
    rintro talk filled m ⟨hkept, hread⟩
    refine .get_bind (.pure ⟨hkept.trans hname, ?_⟩)
    rw [List.append_nil, Dialogue.attributesRead_append, hread]
    rfl

theorem observeIdentity_staged (hname : t.externalName = some identity) :
    (observeIdentity identity).Staged Query.Approaches t fun talk sighting t' =>
      sighting.ReadBy talk.attributesRead t' := by
  refine (Staged.ask (q := .fetchAttributes identity) ⟨⟨hname, not_false⟩, nofun⟩ not_false).bind ?_
  rintro _ answer _ ⟨rfl, rfl⟩
  refine .called_bind ?_
  rintro (cause | attributes) rfl
  · dsimp only
    split
    · exact (Staged.log (approaches_log _) _ _ _).bind fun _ _ _ _ => .pure trivial
    · exact .throw trivial
  · exact observeTags_staged hname attributes

/-- What is seen is the recorded remote topic, and its attributes are read once. -/
theorem observe_staged (t : Topic) : observe.Staged Query.Approaches t fun talk sighting t' =>
    sighting.ReadBy talk.attributesRead t' := by
  refine .get_bind ?_
  cases hname : t.externalName with
  | none => exact (Staged.log (approaches_log _) _ _ _).bind fun _ _ _ _ => .pure trivial
  | some identity => exact observeIdentity_staged hname

/-- A topic was created, and its identity was written back. -/
theorem stage_created (t : Topic) (attributes : TextMap String) (tags : List Tag)
    (identity : String) (answer : Except StoreError Unit) (result : Except PassError α)
    (hgenuine : ∀ e, result = .error e → e.Genuine) :
    Stage Query.Approaches t
      [⟨.mutate (.create t.anyName attributes tags), .ok (.ok identity)⟩,
        ⟨.write t (.externalName identity), answer⟩]
      result (t.hear ⟨.write t (.externalName identity), answer⟩) := by
  refine ⟨rfl, ⟨⟨⟨rfl, not_false⟩, nofun⟩, ⟨⟨trivial, not_false⟩, nofun⟩, trivial⟩, ?_, hgenuine⟩
  intro topic other written hmem
  rcases List.mem_pair.1 hmem with hmem | hmem
  · cases hmem
  · cases hmem
    exact ⟨attributes, tags, List.mem_cons_self⟩

/-- The identity that is recorded is the one of the topic that was created. -/
theorem create_staged (t : Topic) : create.Staged Query.Approaches t fun _ _ _ => True := by
  unfold Staged
  simp only [create, tells_bind_iff, tells_get_iff, tells_mutate_iff, tells_modify_iff,
    tells_log_iff, tells_write_iff, tells_pure_iff, tells_orElse_iff, List.nil_append]
  rintro (interruption | cause | identity)
  · refine ⟨.single ⟨⟨rfl, not_false⟩, nofun⟩ not_false ?_, by rintro _ ⟨⟩⟩
    rintro _ ⟨⟩
    exact interruption.genuine_failure _
  · refine ⟨.single ⟨⟨rfl, not_false⟩, nofun⟩ not_false ?_, by rintro _ ⟨⟩⟩
    rintro _ ⟨⟩
    trivial
  · rintro (cause | _)
    · refine ⟨stage_created t _ _ identity (.error cause) _ ?_, by rintro _ ⟨⟩⟩
      rintro _ ⟨⟩
      trivial
    · have hcreated := stage_created t t.parameters.creationAttributes
        (t.parameters.creationTags.map Tag.ofEntry) identity (.ok ()) (.ok ()) (by rintro _ ⟨⟩)
      have hlog : Stage Query.Approaches (t.setExternalName identity)
          [⟨.log ⟨.info, "created remote topic", [("identity", identity)]⟩, ()⟩]
          (.ok identity : Except PassError String) (t.setExternalName identity) :=
        .single (approaches_log _ _) not_false (by rintro _ ⟨⟩)
      exact ⟨hcreated.append hlog, fun _ _ => trivial⟩

/-- The next status is made from the one that the topic has. -/
theorem nextStatus_staged {rule : Topic → Query → Prop} (hrule : rule t .now)
    (updates : List Condition) (observation : Option Observation) :
    (nextStatus updates observation).Staged rule t fun talk status t' =>
      Quietly t talk status t' ∧ ∃ now, status = Status.next now t.status updates observation := by
  refine .get_bind ((Staged.ask hrule not_false).bind ?_)
  rintro _ now _ ⟨rfl, rfl⟩
  exact .pure ⟨⟨rfl, rfl⟩, now, rfl⟩

/-- Brings the remote topic into line with the topic.  The result holds what the status to write is
made from. -/
def approach : Work (Outcome × List Condition × Option Observation) := do
  match ← observe with
  | .absent => return (.created (← create), [.creating, .reconcileSuccess], none)
  | .present identity snapshot upToDate _ =>
      return (← align identity snapshot upToDate, [.available, .reconcileSuccess],
        some (Observation.ofAttributes snapshot.attributes))

/-- Only when everything else is done the time is asked for. -/
theorem converge_eq : converge = do
    let (outcome, updates, observation) ← approach
    return (outcome, ← nextStatus updates observation) := by
  unfold converge approach
  rw [bind_assoc]
  congr 1
  funext sighting
  cases sighting <;> simp only [bind_assoc, pure_bind]

/-- What the status of a pass without an error is made from. -/
inductive Approached (talk : Dialogue) : Outcome × List Condition × Option Observation → Prop
  | created (identity : String) :
      Approached talk (.created identity, [.creating, .reconcileSuccess], none)
  | aligned {outcome : Outcome} (houtcome : outcome.Aligned) {attributes : ObservedAttributes}
      (hread : talk.attributesRead = [attributes]) :
      Approached talk (outcome, [.available, .reconcileSuccess],
        some (Observation.ofAttributes attributes))

theorem approach_staged (t : Topic) :
    approach.Staged Query.Approaches t fun talk done _ => Approached talk done := by
  refine (observe_staged t).bind ?_
  rintro seen (_ | ⟨identity, snapshot, upToDate, filled⟩) m hread
  · refine (create_staged m).bind ?_
    rintro created name m' -
    exact .pure (.created name)
  · refine (align_staged hread.1 snapshot upToDate).bind ?_
    rintro aligned outcome _ ⟨⟨rfl, hquiet⟩, houtcome⟩
    refine .pure (.aligned houtcome ?_)
    simp [hread.2, hquiet]

/-- The status that a pass without an error asks for. -/
inductive Succeeds (t : Topic) (talk : Dialogue) : Outcome → Status → Prop
  | created (identity : String) (now : Instant) :
      Succeeds t talk (.created identity)
        (Status.next now t.status [.creating, .reconcileSuccess] none)
  | aligned {outcome : Outcome} (houtcome : outcome.Aligned) (now : Instant)
      {attributes : ObservedAttributes} (hread : talk.attributesRead = [attributes]) :
      Succeeds t talk outcome (Status.next now t.status [.available, .reconcileSuccess]
        (some (Observation.ofAttributes attributes)))

theorem converge_staged (t : Topic) : converge.Staged Query.Converges t fun talk done _ =>
    Succeeds t talk done.1 done.2 := by
  rw [converge_eq]
  refine ((approach_staged t).weakenRule fun _ _ hq => hq.1).known.bind ?_
  rintro talk ⟨outcome, updates, observation⟩ m ⟨hstage, hdone⟩
  refine (nextStatus_staged ⟨trivial, not_false⟩ _ _).bind ?_
  rintro told status _ ⟨⟨rfl, htold⟩, now, rfl⟩
  refine .pure ?_
  rw [hstage.status_eq fun _ _ h => h.2]
  cases hdone with
  | created identity => exact .created identity now
  | aligned houtcome hread =>
      refine .aligned houtcome now ?_
      simp [hread, htold]

end Lifecycle

end TopicOperator
