import TopicOperator.Proofs.Pass.StoredTopic

/-!
# Parameters that were filled but not written

A pass fills parameters in the topic before it writes them back.  If that write fails, later passes find
nothing left to fill and do not write again, so the stored parameters stay behind.  What they declare is
never wrong, and they are complete as long as no such write has failed.
-/

namespace TopicOperator

open World Work Lifecycle

/-- Stored parameters that declare nothing else than those of the topic, and all of it while they are
intact. -/
structure Parameters.Trail (intact : Prop) (stored live : Parameters) : Prop where
  extended : stored.ExtendedBy live
  eq : intact → stored = live

namespace Parameters.Trail

variable {intact : Prop} {stored live : Parameters}

theorem refl (intact : Prop) (p : Parameters) : Trail intact p p :=
  ⟨ExtendedBy.refl p, fun _ => rfl⟩

/-- After a write nothing is missing, whatever was missing before. -/
theorem written (h : Trail intact stored live) (snapshot : Snapshot) {base : Parameters}
    (hbase : base = stored ∨ base = Parameters.shape.blank) :
    Trail intact ((live.completedBy snapshot).onto base) (live.completedBy snapshot) := by
  have honto : (live.completedBy snapshot).onto base = live.completedBy snapshot := by
    rcases hbase with rfl | rfl
    · exact onto_of_extendedBy (h.extended.trans (live.extendedBy_completedBy snapshot))
    · exact onto_blank _
  rw [honto]
  exact refl intact _

/-- Parameters that were filled only in the topic may be missing. -/
theorem filled (h : Trail intact stored live) (snapshot : Snapshot) {intact' : Prop}
    (hbroken : ¬ intact') : Trail intact' stored (live.completedBy snapshot) :=
  ⟨h.extended.trans (live.extendedBy_completedBy snapshot), fun h => absurd h hbroken⟩

theorem weaken (h : Trail intact stored live) {intact' : Prop} (himp : intact' → intact) :
    Trail intact' stored live :=
  ⟨h.extended, fun hintact => h.eq (himp hintact)⟩

end Parameters.Trail

/-- A faithful server holds parameters that trail those of the topic. -/
def Trailed (intact : Prop) (w : World) (topic : Topic) : Prop :=
  ∃ (object : Json) (spec : Spec), w.store.Holds object ∧ spec.StoredIn object ∧
    spec.forProvider.Trail intact topic.parameters

/-- An error that tells of parameters which could not be written. -/
def PassError.LeavesParameters : PassError → Prop
  | .persistParameters _ => True
  | _ => False

namespace Trailed

variable {intact : Prop} {w w' : World} {topic : Topic}

theorem of_store (h : Trailed intact w topic) (hstore : w'.store = w.store) :
    Trailed intact w' topic := by
  obtain ⟨object, spec, hholds, hspec, htrail⟩ := h
  exact ⟨object, spec, hstore ▸ hholds, hspec, htrail⟩

theorem weaken (h : Trailed intact w topic) {intact' : Prop} (himp : intact' → intact) :
    Trailed intact' w topic := by
  obtain ⟨object, spec, hholds, hspec, htrail⟩ := h
  exact ⟨object, spec, hholds, hspec, htrail.weaken himp⟩

/-- A write about another part of the object leaves the specification alone, whether it is carried out
or not. -/
theorem write (h : Trailed intact w topic) (written : Topic) {change : StoreWrite} {name : String}
    {value : Json} (hpatch : change.patch = .object [(name, value)]) (hname : "spec" ≠ name)
    (hvalue : value ≠ .null) (hdistinct : value.Distinct) :
    Trailed intact (w.answer (.write written change)).2 topic := by
  obtain ⟨object, spec, hholds, hspec, htrail⟩ := h
  rcases hholds.write written change with ⟨-, hsame⟩ | ⟨hdone, -⟩
  · exact ⟨object, spec, hsame, hspec, htrail⟩
  · rw [hpatch] at hdone
    exact ⟨_, spec, hdone, hspec.patchElsewhere hname hvalue hdistinct, htrail⟩

theorem overlooks : Overlooks (Trailed intact) where
  log _ := fun _ _ h => h.of_store rfl
  fetchAttributes identity := fun w _ h => by
    obtain ⟨_, _, _, hworld⟩ := w.answer_fetchAttributes identity
    exact h.of_store (by rw [hworld])
  fetchTags identity := fun w _ h => by
    obtain ⟨_, _, _, hworld⟩ := w.answer_fetchTags identity
    exact h.of_store (by rw [hworld])

theorem lasts : Lasts (Trailed intact) where
  log _ := fun _ _ h => h.of_store rfl
  now := fun _ _ h => h.of_store rfl
  writeStatus _ status := fun _ _ h =>
    h.write _ (rfl : _ = Json.object [("status", status.patchBody)]) (by decide) nofun
      status.distinct_patchBody
  setStatus _ _ _ h := h

theorem answerKeeps_mutate (m : Mutation) : AnswerKeeps (Trailed intact) (.mutate m) := by
  intro w topic h
  obtain ⟨_, _, _, _, hworld, -⟩ :=
    w.call_eq m.operation m.address fun r => r.mutate w.region m
  exact h.of_store (by rw [answer, hworld])

theorem answerKeeps_writeIdentity (identity : String) (written : Topic) :
    AnswerKeeps (Trailed intact) (.write written (.externalName identity)) := fun _ _ h =>
  h.write written (rfl : _ = Json.object [("metadata", .object [("annotations",
    .object [(Topic.externalNameKey, .text identity)])])]) (by decide) nofun
    ⟨by simp [Json.names], ⟨by simp [Json.names], trivial, trivial⟩, trivial⟩

theorem create : Preserves (Trailed intact) create := by
  refine Keeps.get.bind fun topic => ?_
  refine Keeps.bind (Keeps.mutate (fun _ _ _ _ h => h) (answerKeeps_mutate _)) fun answer => ?_
  refine Keeps.bind (Keeps.orElse answer fun _ _ _ h => h) fun identity => ?_
  refine Keeps.bind (Keeps.write (answerKeeps_writeIdentity identity) fun _ _ _ h => h) fun _ => ?_
  have hset : Preserves (Trailed intact)
      (modify fun topic => topic.setExternalName identity) := fun _ _ h => h
  exact hset.bind fun _ => (Keeps.log lasts.log _ _ _).bind fun _ => Keeps.pure identity

/-- Filled parameters are behind in the stored object exactly if their write is answered with an error
and not carried out. -/
theorem fillParameters (snapshot : Snapshot) :
    Keeps (Trailed intact) (fun e => Trailed (intact ∧ ¬ e.LeavesParameters))
      (fillParameters snapshot) := by
  intro w topic ⟨object, spec, hholds, hspec, htrail⟩
  simp only [Lifecycle.fillParameters, perform_bind, perform_get, andThen_ok]
  by_cases hgains : topic.parameters.gainsFrom snapshot = true
  · simp only [if_pos hgains, perform_bind, perform_modify, andThen_ok, perform_log, perform_write]
    let p := topic.parameters.completedBy snapshot
    obtain ⟨base, hread, hbase⟩ := hspec.parametersPatch p
    have hafter := htrail.written snapshot (hbase.imp_right And.left)
    -- The topic has been filled by now, whether the write is carried out or not.
    rcases hholds.write (topic.withParameters p) (.parameters p) with ⟨⟨e, he⟩, hsame⟩ | ⟨hdone, -⟩
    · simp only [World.log, he, p]
      refine ⟨object, spec, hsame, hspec, htrail.filled snapshot fun hintact => ?_⟩
      exact hintact.2 trivial
    · cases hanswer : (w.store.write (topic.withParameters p) (.parameters p)).1 with
      | ok value =>
          simp only [World.log, hanswer, p]
          exact ⟨_, _, hdone, hread, hafter⟩
      | error e =>
          simp only [World.log, hanswer, p]
          exact ⟨_, _, hdone, hread, hafter.weaken And.left⟩
  · rw [if_neg hgains]
    exact ⟨object, spec, hholds, hspec, htrail⟩

/-- A pass that does not fail to write parameters keeps them intact. -/
theorem reconcile :
    Keeps (Trailed intact) (fun e => Trailed (intact ∧ ¬ e.LeavesParameters)) reconcile := by
  have hfail (e : PassError) (w : World) (t : Topic) (h : Trailed intact w t) :
      Trailed (intact ∧ ¬ e.LeavesParameters) w t := h.weaken And.left
  exact lasts.reconcile overlooks (fun e _ => hfail e) fillParameters (create.keeps hfail)
    (fun _ m _ => answerKeeps_mutate m) fun e => lasts.recordFailure e

/-- Whatever fails, a pass leaves stored parameters that are right where they say something. -/
theorem preserves_reconcile : Preserves (Trailed False) Lifecycle.reconcile :=
  reconcile.weaken (fun _ _ h => h) (fun _ _ _ h => h) fun _ _ _ h => h.weaken False.elim

end Trailed

/-- What is read of the specification in the stored object. -/
def World.storedSpec? (w : World) : Option Spec :=
  w.store.object?.bind fun object => (Spec.reader (.ofJson (object.get "spec"))).toOption

theorem World.storedSpec?_eq {w : World} {object : Json} {spec : Spec}
    (hobject : w.store.object? = some object) (hspec : spec.StoredIn object) :
    w.storedSpec? = some spec := by
  rw [storedSpec?, hobject, Option.bind_some, hspec.read]
  rfl

/-- After any number of passes the stored parameters can be read.  They declare nothing that those of the
topic do not declare, and they are the same if no pass failed to write them. -/
theorem stored_parameters_trail {w₀ w : World} {t₀ t : Topic} {object₀ : Json}
    {results : List (Except PassError Outcome)} (hobject : w₀.store.object? = some object₀)
    (hstored : t₀.StoredIn object₀)
    (hrun : Run World.Pause (· = Lifecycle.reconcile) w₀ t₀ results w t) :
    ∃ spec, w.storedSpec? = some spec ∧ spec.forProvider.ExtendedBy t.parameters ∧
      ((∀ cause, .error (.persistParameters cause) ∉ results) →
        spec.forProvider = t.parameters) := by
  let Intact (results : List (Except PassError Outcome)) : Prop :=
    ∀ e : PassError, .error e ∈ results → ¬ e.LeavesParameters
  -- Between passes the server need not be faithful, so only the object is known.
  let Behind (results : List (Except PassError Outcome)) (w : World) (t : Topic) : Prop :=
    ∃ (object : Json) (spec : Spec), w.store.object? = some object ∧ spec.StoredIn object ∧
      spec.forProvider.Trail (Intact results) t.parameters
  have hof (results : List (Except PassError Outcome)) (w : World) (t : Topic)
      (h : Trailed (Intact results) w t) : Behind results w t := by
    obtain ⟨object, spec, hholds, hspec, htrail⟩ := h
    exact ⟨object, spec, hholds.object, hspec, htrail⟩
  have hbehind : Behind results w t := by
    refine hrun.holds Behind (fun results => Trailed (Intact results)) ?_ ?_ ?_
    · exact ⟨object₀, t₀.spec, hobject, hstored.toSpec, .refl _ _⟩
    · intro results w w' t ⟨object, spec, hobject, hspec, htrail⟩ hpause
      exact ⟨object, spec, hpause.holds hobject, hspec, htrail⟩
    · rintro results _ rfl
      refine Trailed.reconcile.weaken (fun _ _ h => h) ?_ ?_
      · intro outcome w t h
        refine hof _ w t (h.weaken fun hintact e he => ?_)
        exact hintact e (List.mem_append_left _ he)
      · intro e w t h
        refine hof _ w t (h.weaken fun hintact => ⟨fun e he => ?_, ?_⟩)
        · exact hintact e (List.mem_append_left _ he)
        · exact hintact e (List.mem_append_right _ List.mem_cons_self)
  obtain ⟨object, spec, hobject, hspec, htrail⟩ := hbehind
  refine ⟨spec, World.storedSpec?_eq hobject hspec, htrail.extended, fun hwritten => htrail.eq ?_⟩
  intro e he hleaves
  cases e with
  | persistParameters cause => exact hwritten cause he
  | _ => exact hleaves

/-- A world whose remote topic has a display name, which the stored topic does not declare. -/
def namedWorld (refusals : Nat) : World :=
  { servedWorld recordedTopic.toJson refusals with
    remote := { topics := .ofList [(identityFor "us-east-1" "orders",
      { attributes := .ofList [("DisplayName", "Orders")] })] } }

theorem pause_namedWorld (refusals : Nat) : (namedWorld refusals).Pause (namedWorld refusals) :=
  ⟨rfl, (pause_servedWorld recordedTopic.toJson refusals).faithful⟩

theorem stored_parameters_trail_written :
    ((namedWorld 0).perform recordedTopic reconcile).result = .ok .unchanged ∧
      ((namedWorld 0).perform recordedTopic reconcile).world.storedSpec? =
        some ⟨{ region := "us-east-1", displayName := some "Orders" }⟩ := by
  have hrun : Run World.Pause (· = reconcile) (namedWorld 0) recordedTopic _ _ _ :=
    .step .start (pause_namedWorld 0) rfl
  have hran : (((namedWorld 0).perform recordedTopic reconcile).result,
      ((namedWorld 0).perform recordedTopic reconcile).topic.parameters) =
        (.ok .unchanged, { region := "us-east-1", displayName := some "Orders" }) := by
    decide +kernel
  obtain ⟨spec, hstored, -, hsame⟩ := stored_parameters_trail rfl storedIn_recordedTopic hrun
  generalize (namedWorld 0).perform recordedTopic reconcile = ran at *
  obtain ⟨hresult, hlive⟩ := Prod.mk.inj hran
  refine ⟨hresult, hstored.trans ?_⟩
  rw [← hlive, ← hsame]
  intro cause hmem
  cases (List.mem_singleton.1 hmem).trans hresult

/-- The first pass fails to write the display name that it filled in, and the second one has nothing to
do. -/
theorem stored_parameters_lost :
    (namedWorld 1).store.object? = some recordedTopic.toJson ∧
      recordedTopic.StoredIn recordedTopic.toJson ∧
      ∃ results w t, Run World.Pause (· = reconcile) (namedWorld 1) recordedTopic
          (results ++ [.ok .unchanged]) w t ∧
        ¬ ∃ spec, w.storedSpec? = some spec ∧ spec.forProvider = t.parameters := by
  have hran :
      let first := (namedWorld 1).perform recordedTopic reconcile
      let second := first.world.perform first.topic reconcile
      (second.result, second.world.storedSpec?, second.topic.parameters) =
        (.ok .unchanged, some ⟨{ region := "us-east-1" }⟩,
          { region := "us-east-1", displayName := some "Orders" }) := by
    decide +kernel
  have hstart : Trailed False (namedWorld 1) recordedTopic :=
    ⟨_, _, (pause_namedWorld 1).holds rfl, storedIn_recordedTopic.toSpec, .refl _ _⟩
  have hfirst : Run World.Pause (· = reconcile) (namedWorld 1) recordedTopic _ _ _ :=
    .step .start (pause_namedWorld 1) rfl
  -- The server is still faithful after the first pass.
  obtain ⟨_, _, hholds, -, -⟩ := Trailed.preserves_reconcile.after hstart
  dsimp only at hran
  generalize (namedWorld 1).perform recordedTopic reconcile = first at *
  have hrun := hfirst.step ⟨rfl, hholds.faithful⟩ rfl
  generalize first.world.perform first.topic reconcile = second at *
  obtain ⟨hresult, hran⟩ := Prod.mk.inj hran
  obtain ⟨hstored, hlive⟩ := Prod.mk.inj hran
  rw [hresult] at hrun
  refine ⟨rfl, storedIn_recordedTopic, _, _, _, hrun, ?_⟩
  rintro ⟨spec, hspec, hsame⟩
  obtain rfl := Option.some.inj (hstored.symm.trans hspec)
  rw [hlive] at hsame
  cases hsame

end TopicOperator
