import TopicOperator.Proofs.Pass.ClockReading
import TopicOperator.Proofs.Pass.Frame

/-!
# Passes side by side

Two passes share one remote service and take turns at it in any order, one query at a time; each has
surroundings of its own otherwise: a region, a store, a clock, a token and disturbances.  If the two
topics concern different identities the passes end as if one had gone after the other.  At every
moment, what either pass would come to if it went on alone is what it would have come to from the
start: its own turns are part of that, and those of the other pass change nothing that it knows.
-/

namespace TopicOperator

variable {α β : Type}

/-- The result of a program that is done. -/
def Program.result? : Program α → Option α
  | .done result => some result
  | .ask _ _ => none

theorem Program.result?_eq_some_iff {program : Program α} {result : α} :
    program.result? = some result ↔ program = .done result := by
  cases program with
  | done value => simp [result?]
  | ask query next => simp [result?]

/-- A world with another remote service. -/
def World.sharing (w : World) (remote : Remote) : World := { w with remote := remote }

/-- A program under way, with its surroundings.  The remote service that these hold is the one of the
last turn. -/
structure Party (α : Type) where
  world : World
  rest : Program α

namespace Party

/-- One query of a party to a shared remote service, if there is one left to ask. -/
def ask (party : Party α) (remote : Remote) : Party α × Remote :=
  match party.rest with
  | .done _ => (party, remote)
  | .ask query next =>
      let (answer, world) := (party.world.sharing remote).answer query
      (⟨world, next answer⟩, world.remote)

/-- What a party comes to when it goes on alone. -/
def ahead (party : Party α) (remote : Remote) : α × World :=
  (party.world.sharing remote).run party.rest

/-- A party stays in its region and keeps to some topics. -/
def KeepsTo (party : Party α) (keys : String → Prop) : Prop :=
  party.rest.KeepsTo party.world.region keys

variable {party : Party α} {keys : String → Prop} {remote other : Remote}

/-- A query of its own is part of what a party comes to. -/
theorem ahead_ask (party : Party α) (remote : Remote) :
    (party.ask remote).1.ahead (party.ask remote).2 = party.ahead remote := by
  obtain ⟨world, rest⟩ := party
  cases rest with
  | done result => rfl
  | ask query next => rfl

theorem keepsTo_ask (h : party.KeepsTo keys) (remote : Remote) :
    (party.ask remote).1.KeepsTo keys := by
  obtain ⟨world, rest⟩ := party
  cases h with
  | done result => exact .done result
  | ask hquery hnext =>
      rename_i query next
      have hplace := World.region_answer_of_keepsTo hquery (world.sharing remote)
      have hrest := hnext _ ((world.sharing remote).namesTarget_answer query)
      show Program.KeepsTo ((world.sharing remote).answer query).2.region keys _
      rw [hplace]
      exact hrest

/-- A query of a party changes none of the topics that it does not keep to, and announces no
failure. -/
theorem agreesOn_ask (h : party.KeepsTo keys) (others : String → Prop)
    (hothers : ∀ key, others key → ¬ keys key) (hquiet : remote.failAt = none) :
    remote.AgreesOn others (party.ask remote).2 := by
  obtain ⟨world, rest⟩ := party
  cases h with
  | done result => exact ⟨fun _ _ => rfl, hquiet, hquiet⟩
  | ask hquery hnext =>
      rename_i query next
      let w := world.sharing remote
      have hself : w.remote.AgreesOn keys w.remote := ⟨fun _ _ => rfl, hquiet, hquiet⟩
      obtain ⟨after, -, hagree⟩ := World.answer_agrees (w := w) hself hquery
      refine ⟨fun key hkey => Eq.symm ?_, hquiet, hagree.quiet⟩
      refine w.get?_answer_of_ne ?_
      rintro m rfl rfl
      exact hothers _ hkey hquery

/-- What a party comes to depends on the topics that it keeps to. -/
theorem ahead_agrees (h : party.KeepsTo keys) (hagree : remote.AgreesOn keys other) :
    (party.ahead other).1 = (party.ahead remote).1 ∧
      (party.ahead remote).2.remote.AgreesOn keys (party.ahead other).2.remote := by
  obtain ⟨after, hrun, hend⟩ :=
    World.run_agrees (w := party.world.sharing remote) h rfl hagree
  have hother : party.ahead other = _ := hrun
  rw [hother]
  exact ⟨rfl, hend⟩

end Party

/-- Two parties that share one remote service. -/
structure SideBySide (α β : Type) where
  remote : Remote
  first : Party α
  second : Party β

/-- Whose turn it is. -/
inductive Turn where
  | first
  | second
deriving DecidableEq, Repr

namespace SideBySide

/-- One query of the party whose turn it is. -/
def turn (s : SideBySide α β) : Turn → SideBySide α β
  | .first =>
      let (party, remote) := s.first.ask s.remote
      { s with remote := remote, first := party }
  | .second =>
      let (party, remote) := s.second.ask s.remote
      { s with remote := remote, second := party }

/-- One turn after the other. -/
def follow (s : SideBySide α β) (turns : List Turn) : SideBySide α β :=
  turns.foldl turn s

/-- Both parties are done, with these results. -/
def Ends (s : SideBySide α β) (a : α) (b : β) : Prop :=
  s.first.rest.result? = some a ∧ s.second.rest.result? = some b

/-- Two parties that keep to different topics will come to some results and leave some topics,
whoever goes on. -/
structure ComesTo (own others : String → Prop) (a : α) (b : β) (topics : TextMap RemoteTopic)
    (s : SideBySide α β) : Prop where
  apart : ∀ key, own key → ¬ others key
  quiet : s.remote.failAt = none
  firstKeeps : s.first.KeepsTo own
  secondKeeps : s.second.KeepsTo others
  firstResult : (s.first.ahead s.remote).1 = a
  secondResult : (s.second.ahead s.remote).1 = b
  firstTopics : ∀ key, own key →
    (s.first.ahead s.remote).2.remote.topics.get? key = topics.get? key
  secondTopics : ∀ key, others key →
    (s.second.ahead s.remote).2.remote.topics.get? key = topics.get? key
  elsewhere : ∀ key, ¬ own key → ¬ others key →
    s.remote.topics.get? key = topics.get? key

namespace ComesTo

variable {own others : String → Prop} {a : α} {b : β} {topics : TextMap RemoteTopic}
  {s : SideBySide α β}

/-- The parties change places. -/
theorem swap (h : s.ComesTo own others a b topics) :
    ComesTo others own b a topics ⟨s.remote, s.second, s.first⟩ where
  apart := fun key hother hown => h.apart key hown hother
  quiet := h.quiet
  firstKeeps := h.secondKeeps
  secondKeeps := h.firstKeeps
  firstResult := h.secondResult
  secondResult := h.firstResult
  firstTopics := h.secondTopics
  secondTopics := h.firstTopics
  elsewhere := fun key hother hown => h.elsewhere key hown hother

/-- A turn of the first party changes nothing of what both come to. -/
theorem turn_first (h : s.ComesTo own others a b topics) :
    (s.turn .first).ComesTo own others a b topics := by
  have hothers := Party.agreesOn_ask h.firstKeeps others
    (fun key hother hown => h.apart key hown hother) h.quiet
  have hnobody := Party.agreesOn_ask h.firstKeeps (fun key => ¬ own key) (fun _ => id) h.quiet
  obtain ⟨hresult, htopics⟩ := Party.ahead_agrees h.secondKeeps hothers
  have hfirst := s.first.ahead_ask s.remote
  exact {
    apart := h.apart
    quiet := hnobody.quietOther
    firstKeeps := Party.keepsTo_ask h.firstKeeps s.remote
    secondKeeps := h.secondKeeps
    firstResult := (congrArg Prod.fst hfirst).trans h.firstResult
    secondResult := hresult.trans h.secondResult
    firstTopics := fun key hkey =>
      (congrArg (fun ran => ran.2.remote.topics.get? key) hfirst).trans (h.firstTopics key hkey)
    secondTopics := fun key hkey =>
      (htopics.topics key hkey).symm.trans (h.secondTopics key hkey)
    elsewhere := fun key hown hother =>
      (hnobody.topics key hown).symm.trans (h.elsewhere key hown hother) }

/-- Whoever takes turns, both parties still come to the same. -/
theorem follow (h : s.ComesTo own others a b topics) (turns : List Turn) :
    (s.follow turns).ComesTo own others a b topics := by
  induction turns generalizing s with
  | nil => exact h
  | cons turn rest ih =>
      cases turn with
      | first => exact ih h.turn_first
      | second => exact ih h.swap.turn_first.swap

/-- When both parties are done they have come to what was to be expected. -/
theorem of_ends (h : s.ComesTo own others a b topics) {a' : α} {b' : β} (hends : s.Ends a' b') :
    a' = a ∧ b' = b ∧ s.remote.topics = topics := by
  obtain ⟨hfirst, hsecond⟩ := hends
  rw [Program.result?_eq_some_iff] at hfirst hsecond
  have hahead : s.first.ahead s.remote = (a', s.first.world.sharing s.remote) := by
    rw [Party.ahead, hfirst]
    rfl
  have hother : s.second.ahead s.remote = (b', s.second.world.sharing s.remote) := by
    rw [Party.ahead, hsecond]
    rfl
  have hown := h.firstTopics
  have hothers := h.secondTopics
  have ha := h.firstResult
  have hb := h.secondResult
  rw [hahead] at ha hown
  rw [hother] at hb hothers
  refine ⟨ha, hb, TextMap.ext_get? fun key => ?_⟩
  by_cases hkey : own key
  · exact hown key hkey
  · by_cases hkey' : others key
    · exact hothers key hkey'
    · exact h.elsewhere key hkey hkey'

end ComesTo

/-- Two parties at the start. -/
theorem comesTo_start {own others : String → Prop} (hapart : ∀ key, own key → ¬ others key)
    {s : SideBySide α β} (hquiet : s.remote.failAt = none) (hfirst : s.first.KeepsTo own)
    (hsecond : s.second.KeepsTo others) :
    s.ComesTo own others (s.first.ahead s.remote).1
      (s.second.ahead (s.first.ahead s.remote).2.remote).1
      (s.second.ahead (s.first.ahead s.remote).2.remote).2.remote.topics := by
  -- The first party alone leaves what the second one keeps to, and the second one what the first.
  have hself : s.remote.AgreesOn own s.remote := ⟨fun _ _ => rfl, hquiet, hquiet⟩
  have hquiet' := (Party.ahead_agrees hfirst hself).2.quiet
  have hkept : ∀ key, ¬ own key →
      (s.first.ahead s.remote).2.remote.topics.get? key = s.remote.topics.get? key :=
    fun key hkey => World.get?_run_of_not (w := s.first.world.sharing s.remote) hfirst rfl hkey
  have hkept' : ∀ remote key, ¬ others key →
      (s.second.ahead remote).2.remote.topics.get? key = remote.topics.get? key :=
    fun remote key hkey => World.get?_run_of_not
      (w := s.second.world.sharing remote) hsecond rfl hkey
  have hothers : s.remote.AgreesOn others (s.first.ahead s.remote).2.remote :=
    ⟨fun key hkey => (hkept key fun hown => hapart key hown hkey).symm, hquiet, hquiet'⟩
  obtain ⟨hresult, htopics⟩ := Party.ahead_agrees hsecond hothers
  exact {
    apart := hapart
    quiet := hquiet
    firstKeeps := hfirst
    secondKeeps := hsecond
    firstResult := rfl
    secondResult := hresult.symm
    firstTopics := fun key hkey => (hkept' _ key (hapart key hkey)).symm
    secondTopics := fun key hkey => htopics.topics key hkey
    elsewhere := fun key hown hother => ((hkept' _ key hother).trans (hkept key hown)).symm }

theorem follow_append (s : SideBySide α β) (first second : List Turn) :
    s.follow (first ++ second) = (s.follow first).follow second :=
  List.foldl_append

/-- Two parties can always go on to the end. -/
theorem exists_ends (s : SideBySide α β) : ∃ turns a b, (s.follow turns).Ends a b := by
  have hsecond : ∀ s : SideBySide α β, (∃ a, s.first.rest.result? = some a) →
      ∃ turns a b, (s.follow turns).Ends a b := by
    rintro ⟨remote, first, ⟨world, rest⟩⟩ ⟨a, ha⟩
    induction rest generalizing remote world with
    | done b => exact ⟨[], a, b, ha, rfl⟩
    | ask query next ih =>
        let w := world.sharing remote
        obtain ⟨turns, a, b, hends⟩ := ih (w.answer query).1 (w.answer query).2.remote
          (w.answer query).2 ha
        exact ⟨.second :: turns, a, b, hends⟩
  obtain ⟨remote, ⟨world, rest⟩, second⟩ := s
  induction rest generalizing remote world with
  | done a => exact hsecond _ ⟨a, rfl⟩
  | ask query next ih =>
      let w := world.sharing remote
      obtain ⟨turns, a, b, hends⟩ := ih (w.answer query).1 (w.answer query).2.remote
        (w.answer query).2
      exact ⟨.first :: turns, a, b, hends⟩

end SideBySide

/-- Two worlds are the same but for the time, which matters only where writes can fail. -/
structure World.SameButClock (w w' : World) : Prop where
  same : w' = w.at w'.clock
  harmless : w'.clock = w.clock ∨ w.Recording

theorem World.SameButClock.sharing {w w' : World} (h : w.SameButClock w') (remote : Remote) :
    (w.sharing remote).SameButClock (w'.sharing remote) where
  same := by
    rw [h.same]
    rfl
  harmless := h.harmless

namespace Lifecycle

/-- A pass goes the same way at another time, apart from the times in the status. -/
theorem perform_reconcile_sameButClock {w w' : World} (h : w.SameButClock w') (t : Topic) :
    (w.perform t reconcile).result = (w'.perform t reconcile).result ∧
      (w.perform t reconcile).topic.untimed = (w'.perform t reconcile).topic.untimed ∧
      (w.perform t reconcile).world.remote = (w'.perform t reconcile).world.remote := by
  obtain ⟨hsame, hclock | hrecording⟩ := h
  · obtain rfl : w' = w := by
      rw [hsame, hclock]
      rfl
    exact ⟨rfl, rfl, rfl⟩
  · rw [hsame]
    obtain ⟨hresult, htopic, hremote⟩ := perform_reconcile_at hrecording t w'.clock
    exact ⟨hresult.symm, htopic.symm, hremote.symm⟩

/-- Reconciling two topics in different surroundings, over one remote service. -/
def reconcileBoth (remote : Remote) (w v : World) (a b : Topic) :
    SideBySide (Except PassError Outcome × Topic) (Except PassError Outcome × Topic) :=
  ⟨remote, ⟨w, reconcile.run.run a⟩, ⟨v, reconcile.run.run b⟩⟩

/-- Passes over two topics do not interfere if these concern different identities and no failure is
announced for a call to come.  However the passes take turns, they can go on to the end, and at the
end the remote service keeps the same topics, and both passes have the same results and leave the
same topics apart from times, as if the second pass had started when the first one was done.  What
either pass meets on its own — disturbances, a cancelled token, a store that refuses writes — is
the same in both cases; the time may be another one where writes are only recorded. -/
theorem passes_do_not_interfere (remote : Remote) (hquiet : remote.failAt = none)
    {w v w' v' : World} (hw : w.SameButClock w') (hv : v.SameButClock v') {a b : Topic}
    (hapart : ∀ key, a.MayConcern w.region key → ¬ b.MayConcern v.region key) :
    (∀ turns, ∃ more first second,
      ((reconcileBoth remote w v a b).follow (turns ++ more)).Ends first second) ∧
    ∀ turns first second, ((reconcileBoth remote w v a b).follow turns).Ends first second →
      let alone := (w'.sharing remote).perform a reconcile
      let after := (v'.sharing alone.world.remote).perform b reconcile
      ((reconcileBoth remote w v a b).follow turns).remote.topics = after.world.remote.topics ∧
        first.1 = alone.result ∧ first.2.untimed = alone.topic.untimed ∧
        second.1 = after.result ∧ second.2.untimed = after.topic.untimed := by
  refine ⟨fun turns => ?_, fun turns first second hends => ?_⟩
  · simp only [SideBySide.follow_append]
    exact ((reconcileBoth remote w v a b).follow turns).exists_ends
  · have hstart := SideBySide.comesTo_start (s := reconcileBoth remote w v a b) hapart hquiet
      (pass_keepsTo (.inl rfl) a w.region) (pass_keepsTo (.inl rfl) b v.region)
    obtain ⟨rfl, rfl, htopics⟩ := (hstart.follow turns).of_ends hends
    -- What came out is what the passes do one after the other, at the times that they read.
    obtain ⟨hresult, htopic, hremote⟩ :=
      perform_reconcile_sameButClock (hw.sharing remote) a
    have hthen := perform_reconcile_sameButClock
      (hv.sharing ((w.sharing remote).perform a reconcile).world.remote) b
    have hafter : (v'.sharing ((w.sharing remote).perform a reconcile).world.remote).perform b
        reconcile = (v'.sharing ((w'.sharing remote).perform a reconcile).world.remote).perform b
          reconcile := by
      rw [hremote]
    rw [hafter] at hthen
    obtain ⟨hresult', htopic', hremote'⟩ := hthen
    exact ⟨htopics.trans (congrArg Remote.topics hremote'), hresult, htopic, hresult', htopic'⟩

/-- A topic that is created in one region while one of the same name is updated in another. -/
theorem passes_do_not_interfere_regions :
    let identity := identityFor "eu-west-1" "orders"
    let remote : Remote :=
      { topics := .ofList [(identity, { attributes := .ofList [("DisplayName", "Sales")] })] }
    let w : World := { region := "us-east-1", clock := ⟨0⟩ }
    let v : World := { region := "eu-west-1", clock := ⟨0⟩ }
    let a := Topic.new "orders" { region := "us-east-1" }
    let b := (Topic.new "orders"
      { region := "eu-west-1", displayName := some "Orders" }).setExternalName identity
    let turns := (List.replicate 12 [Turn.second, Turn.first]).flatten
    let alone := ((w.at ⟨7⟩).sharing remote).perform a reconcile
    let after := ((v.at ⟨9⟩).sharing alone.world.remote).perform b reconcile
    ∃ first second, ((reconcileBoth remote w v a b).follow turns).Ends first second ∧
      first.1 = .ok (.created (identityFor "us-east-1" "orders")) ∧
      second.1 = .ok (.updated 1 0 0) ∧
      ((reconcileBoth remote w v a b).follow turns).remote.topics = after.world.remote.topics ∧
      first.2.untimed = alone.topic.untimed ∧ second.2.untimed = after.topic.untimed := by
  intro identity remote w v a b turns
  have hapart : ∀ key, a.MayConcern w.region key → ¬ b.MayConcern v.region key := by
    have hname : a.externalName = none := by decide +kernel
    have hname' : b.externalName = some identity := by decide +kernel
    rintro key (hkey | rfl)
    · rw [hname] at hkey
      cases hkey
    · rintro (hkey | hkey)
      · rw [hname'] at hkey
        exact absurd hkey (by decide +kernel)
      · exact absurd hkey (by decide +kernel)
  have hw : w.SameButClock (w.at ⟨7⟩) := ⟨rfl, .inr ⟨[], rfl⟩⟩
  have hv : v.SameButClock (v.at ⟨9⟩) := ⟨rfl, .inr ⟨[], rfl⟩⟩
  have hall := passes_do_not_interfere remote rfl hw hv hapart
  have hdone : (((reconcileBoth remote w v a b).follow turns).first.rest.result?).isSome = true ∧
      (((reconcileBoth remote w v a b).follow turns).second.rest.result?).isSome = true := by
    decide +kernel
  obtain ⟨first, hfirst⟩ := Option.isSome_iff_exists.1 hdone.1
  obtain ⟨second, hsecond⟩ := Option.isSome_iff_exists.1 hdone.2
  obtain ⟨htopics, hresult, htopic, hresult', htopic'⟩ :=
    hall.2 turns first second ⟨hfirst, hsecond⟩
  exact ⟨first, second, ⟨hfirst, hsecond⟩, hresult.trans (by decide +kernel),
    hresult'.trans (by decide +kernel), htopics, htopic, htopic'⟩

end Lifecycle

end TopicOperator
