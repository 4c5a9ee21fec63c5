import TopicOperator.Proofs.Remote.Revision

/-!
# Calls of a client

Everything that the remote service can be asked for: to read, to change, and, behind the back of those
who pass over topics, to drift, to empty the log and to announce a failure.  A call that is addressed to
an identity sees and touches the topic of this identity alone, so calls to different identities can
change places.  What changes topics is logged and either carried out or left undone as a whole.
-/

namespace TopicOperator

/-- A call of a client.  Clients in all regions share one remote service. -/
inductive ClientCall where
  | fetchAttributes (identity : String)
  | fetchTags (identity : String)
  /-- Asks whether there is a topic of an identity. -/
  | contains (identity : String)
  /-- Reads the log. -/
  | calls
  /-- Makes a changing call in the region of the client. -/
  | mutate (region : String) (mutation : Mutation)
  | driftAttribute (identity name value : String)
  | driftTags (identity : String) (tags : List Tag)
  | clearCalls
  | failOnCall (n : Nat)
deriving DecidableEq

/-- What a call of a client is answered with if it succeeds. -/
inductive Reply where
  | done
  | identity (identity : String)
  | attributes (attributes : ObservedAttributes)
  | tags (tags : List Tag)
  | known (there : Bool)
  | log (calls : List Mutation)
deriving DecidableEq

namespace ClientCall

/-- The identity that a call is addressed to. -/
def target? : ClientCall → Option String
  | fetchAttributes identity | fetchTags identity | contains identity
  | driftAttribute identity _ _ | driftTags identity _ => some identity
  | mutate region m => some (m.target region)
  | calls | clearCalls | failOnCall _ => none

/-- What a call makes of the topic that it is addressed to. -/
def effect : ClientCall → Option RemoteTopic → Option RemoteTopic
  | mutate _ m, topic => (m.result? topic).getD topic
  | driftAttribute _ name value, topic => topic.map (·.setAttribute name value)
  | driftTags _ tags, topic => topic.map fun t => { t with tags := tags }
  | _, topic => topic

/-- A call that only reads. -/
def Reads : ClientCall → Prop
  | fetchAttributes _ | fetchTags _ | contains _ | calls => True
  | _ => False

/-- A call that changes a topic from outside. -/
def Drifts : ClientCall → Prop
  | driftAttribute _ _ _ | driftTags _ _ => True
  | _ => False

end ClientCall

namespace Remote

/-- Answers a call of a client. -/
def serve (remote : Remote) : ClientCall → Except RemoteError Reply × Remote
  | .fetchAttributes identity => ((remote.fetchAttributes identity).map .attributes, remote)
  | .fetchTags identity => ((remote.fetchTags identity).map .tags, remote)
  | .contains identity => (.ok (.known (remote.contains identity)), remote)
  | .calls => (.ok (.log remote.calls), remote)
  | .mutate region m => ((remote.mutate region m).1.map .identity, (remote.mutate region m).2)
  | .driftAttribute identity name value =>
      ((remote.driftAttribute identity name value).1.map fun _ => .done,
        (remote.driftAttribute identity name value).2)
  | .driftTags identity tags =>
      ((remote.driftTags identity tags).1.map fun _ => .done, (remote.driftTags identity tags).2)
  | .clearCalls => (.ok .done, remote.clearCalls)
  | .failOnCall n => (.ok .done, remote.failOnCall n)

variable {remote other : Remote} {c first second : ClientCall} {region identity key : String}
  {m : Mutation}

theorem serve_of_reads (h : c.Reads) (remote : Remote) : (remote.serve c).2 = remote := by
  cases c with
  | fetchAttributes | fetchTags | contains | calls => rfl
  | mutate | driftAttribute | driftTags | clearCalls | failOnCall => exact absurd h not_false

/-- A drift touches neither the log nor an announced failure. -/
theorem drift_kept (remote : Remote) (identity : String) (f : RemoteTopic → RemoteTopic) :
    (remote.drift identity f).2.calls = remote.calls ∧
      (remote.drift identity f).2.failAt = remote.failAt := by
  unfold drift
  split
  · exact ⟨rfl, rfl⟩
  · exact ⟨rfl, rfl⟩

theorem calls_serve_of_drifts (h : c.Drifts) (remote : Remote) :
    (remote.serve c).2.calls = remote.calls := by
  cases c with
  | driftAttribute | driftTags => exact (remote.drift_kept _ _).1
  | fetchAttributes | fetchTags | contains | calls | mutate | clearCalls | failOnCall =>
      exact absurd h not_false

theorem get?_drift (remote : Remote) (identity : String) (f : RemoteTopic → RemoteTopic)
    (key : String) : (remote.drift identity f).2.topics.get? key =
      if key = identity then (remote.topics.get? key).map f else remote.topics.get? key := by
  unfold drift
  split
  · rename_i topic hfound
    refine (TextMap.get?_insert _ _ _ _).trans ?_
    split
    · next hkey => rw [hkey, hfound]; rfl
    · rfl
  · rename_i hfound
    split
    · next hkey => rw [hkey, hfound]; rfl
    · rfl

/-- An error is the answer that there is no such topic, or the failure that was announced. -/
theorem error_of_mutate {e : RemoteError} (h : (remote.mutate region m).1 = .error e) :
    e = .notFound (m.target region) ∨
      remote.failAt = some remote.calls.length ∧
        e = .transport m.operation.name (.injected remote.calls.length) := by
  by_cases hannounced : remote.failAt = some remote.calls.length
  · rw [mutate_of_announced hannounced] at h
    exact .inr ⟨hannounced, (Except.error.inj h).symm⟩
  · rw [mutate_of_not_announced hannounced] at h
    simp only [change] at h
    split at h
    · cases h
    · exact .inl (Except.error.inj h).symm

/-- Where no failure is announced, a call makes of the topic that it is addressed to what it is for, and
leaves the others. -/
theorem get?_serve (hquiet : remote.failAt = none) (c : ClientCall) (key : String) :
    (remote.serve c).2.topics.get? key =
      if c.target? = some key then c.effect (remote.topics.get? key)
      else remote.topics.get? key := by
  have hkept : (if c.target? = some key then remote.topics.get? key
      else remote.topics.get? key) = remote.topics.get? key := ite_self _
  have hsame : ∀ identity : String, (some identity = some key) ↔ key = identity :=
    fun identity => ⟨fun h => (Option.some.inj h).symm, fun h => congrArg some h.symm⟩
  cases c with
  | fetchAttributes | fetchTags | contains | calls | clearCalls | failOnCall => exact hkept.symm
  | driftAttribute identity name value =>
      refine (remote.get?_drift identity _ key).trans ?_
      simp only [ClientCall.target?, hsame]
      rfl
  | driftTags identity tags =>
      refine (remote.get?_drift identity _ key).trans ?_
      simp only [ClientCall.target?, hsame]
      rfl
  | mutate region m =>
      simp only [serve, mutate_of_quiet hquiet, get?_change, ClientCall.target?, hsame]
      rfl

/-- No call that is addressed to an identity announces a failure. -/
theorem failAt_serve (hquiet : remote.failAt = none) (htarget : c.target? = some identity) :
    (remote.serve c).2.failAt = none := by
  cases c with
  | fetchAttributes | fetchTags | contains => exact hquiet
  | driftAttribute | driftTags => exact (remote.drift_kept _ _).2.trans hquiet
  | mutate region m =>
      rcases remote.mutate_cases region m with hannounced | hcarried
      · simp only [serve, hannounced]
      · simp only [serve, hcarried]
        exact hquiet
  | calls | clearCalls | failOnCall => cases htarget

/-- Where no failure is announced, the answer to a call depends on the topic that it is addressed to
alone. -/
theorem answer_serve (hquiet : remote.failAt = none) (hother : other.failAt = none)
    (htarget : c.target? = some identity)
    (hsame : remote.topics.get? identity = other.topics.get? identity) :
    (remote.serve c).1 = (other.serve c).1 := by
  cases c with
  | fetchAttributes i =>
      obtain rfl := Option.some.inj htarget
      simp only [serve, fetchAttributes, hsame]
  | fetchTags i =>
      obtain rfl := Option.some.inj htarget
      simp only [serve, fetchTags, hsame]
  | contains i =>
      obtain rfl := Option.some.inj htarget
      simp only [serve, Remote.contains, TextMap.contains, hsame]
  | driftAttribute i name value =>
      obtain rfl := Option.some.inj htarget
      simp only [serve, driftAttribute, drift, hsame]
      cases other.topics.get? i <;> rfl
  | driftTags i tags =>
      obtain rfl := Option.some.inj htarget
      simp only [serve, driftTags, drift, hsame]
      cases other.topics.get? i <;> rfl
  | mutate region m =>
      obtain rfl := Option.some.inj htarget
      simp only [serve, mutate_of_quiet hquiet, mutate_of_quiet hother, change, hsame]
      cases m.result? (other.topics.get? (m.target region)) <;> rfl
  | calls | clearCalls | failOnCall => cases htarget

/-- What a changing call does to the remote service. -/
structure Mutates (before : Remote) (region : String) (m : Mutation)
    (answer : Except RemoteError String) (after : Remote) : Prop where
  /-- The log grows by the call, whatever the answer. -/
  logged : after.calls = before.calls ++ [m]
  /-- An error says that there is no such topic or was announced; then all topics stay as they are. -/
  refused : ∀ e, answer = .error e →
    (e = .notFound (m.target region) ∨
      e = .transport m.operation.name (.injected before.calls.length)) ∧ after.topics = before.topics
  /-- If it succeeds, only the topic that it concerns may be another one. -/
  elsewhere : ∀ identity, answer = .ok identity → identity = m.target region ∧
    ∀ key, key ≠ m.target region → after.topics.get? key = before.topics.get? key
  /-- To create a topic that is there changes nothing. -/
  existing : ∀ name attributes tags, m = .create name attributes tags →
    before.contains (identityFor region name) = true → after.topics = before.topics

theorem mutates (remote : Remote) (region : String) (m : Mutation) :
    Mutates remote region m (remote.mutate region m).1 (remote.mutate region m).2 where
  logged := remote.calls_mutate region m
  refused e he := by
    refine ⟨(error_of_mutate he).imp id And.right, ?_⟩
    exact topics_of_mutate_error (Prod.ext he rfl)
  elsewhere identity h := ⟨target_of_mutate h, fun key => remote.get?_mutate_of_ne⟩
  existing name attributes tags hm hthere := by
    subst hm
    obtain ⟨topic, hfound⟩ := Option.isSome_iff_exists.1 hthere
    rcases remote.mutate_create region name attributes tags with hcreated | ⟨-, hkept⟩
    · rw [hcreated]
      simp only [hfound, Option.getD_some]
      exact TextMap.insert_of_get? hfound
    · exact hkept

/-- Two calls that are addressed to different identities, where no failure is announced: the order does
not matter to the topics, and neither call matters to the answer of the other one. -/
structure Commute (remote : Remote) (first second : ClientCall) : Prop where
  topics : ((remote.serve first).2.serve second).2.topics =
    ((remote.serve second).2.serve first).2.topics
  firstAnswer : ((remote.serve second).2.serve first).1 = (remote.serve first).1
  secondAnswer : ((remote.serve first).2.serve second).1 = (remote.serve second).1

theorem commute (hquiet : remote.failAt = none) {i j : String} (hfirst : first.target? = some i)
    (hsecond : second.target? = some j) (hne : i ≠ j) : Commute remote first second := by
  have hthen := failAt_serve hquiet hfirst
  have hthen' := failAt_serve hquiet hsecond
  have hother : first.target? ≠ some j := fun h => hne (Option.some.inj (hfirst.symm.trans h))
  have hother' : second.target? ≠ some i :=
    fun h => hne (Option.some.inj (hsecond.symm.trans h)).symm
  refine ⟨TextMap.ext_get? fun key => ?_, ?_, ?_⟩
  · rw [get?_serve hthen, get?_serve hthen', get?_serve hquiet, get?_serve hquiet]
    -- At most one of the two calls is addressed to the key.
    by_cases hkey : first.target? = some key
    · have hkey' : second.target? ≠ some key := by
        obtain rfl := Option.some.inj (hfirst.symm.trans hkey)
        exact hother'
      rw [if_pos hkey, if_neg hkey', if_neg hkey', if_pos hkey]
    · rw [if_neg hkey, if_neg hkey]
  · exact answer_serve hthen' hquiet hfirst ((get?_serve hquiet second i).trans (if_neg hother'))
  · exact answer_serve hthen hquiet hsecond ((get?_serve hquiet first j).trans (if_neg hother))

/-- Changing calls are logged, and carried out as a whole or not at all, on the topic that they concern;
reading changes nothing; a drift is not logged; and calls to different identities can change places as
long as no failure is announced. -/
theorem client_calls_atomic_and_framed (remote : Remote) :
    (∀ region m, Mutates remote region m (remote.mutate region m).1 (remote.mutate region m).2) ∧
    (∀ c : ClientCall, c.Reads → (remote.serve c).2 = remote) ∧
    (∀ c : ClientCall, c.Drifts → (remote.serve c).2.calls = remote.calls) ∧
    (remote.failAt = none → ∀ (first second : ClientCall) (i j : String),
      first.target? = some i → second.target? = some j → i ≠ j → Commute remote first second) :=
  ⟨remote.mutates, fun _ h => serve_of_reads h remote, fun _ h => calls_serve_of_drifts h remote,
    fun hquiet _ _ _ _ hfirst hsecond hne => commute hquiet hfirst hsecond hne⟩

/-- A topic that carries one key twice gets a tag of this key, before or after another topic drifts. -/
theorem client_calls_atomic_and_framed_repeated_key :
    let remote : Remote := {
      topics := .ofList [("arn:orders", ⟨.empty, [⟨"team", "a"⟩, ⟨"stage", "b"⟩, ⟨"team", "c"⟩]⟩),
        ("arn:invoices", {})] }
    let tagged : Mutation := .addTags "arn:orders" [⟨"team", "d"⟩]
    let first := ClientCall.mutate "us-east-1" tagged
    let second := ClientCall.driftAttribute "arn:invoices" "DisplayName" "Invoices"
    (remote.mutate "us-east-1" tagged).2.topics.get? "arn:orders" =
        some ⟨.empty, [⟨"stage", "b"⟩, ⟨"team", "d"⟩]⟩ ∧
      Mutates remote "us-east-1" tagged (.ok "arn:orders") (remote.mutate "us-east-1" tagged).2 ∧
      (remote.serve (.fetchTags "arn:orders")).2 = remote ∧ (remote.serve second).2.calls = [] ∧
      Commute remote first second := by
  intro remote tagged first second
  obtain ⟨hmutates, hreads, hdrifts, hcommute⟩ := client_calls_atomic_and_framed remote
  exact ⟨by decide, hmutates "us-east-1" tagged, hreads _ trivial, hdrifts second trivial,
    hcommute rfl first second "arn:orders" "arn:invoices" rfl rfl (by decide)⟩

end Remote

end TopicOperator
