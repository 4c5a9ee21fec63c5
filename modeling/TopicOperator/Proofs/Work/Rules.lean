import TopicOperator.World.Basic

/-!
# How work goes on in a world

Work on a topic is done one piece after the other: what a piece of work leaves of topic and world is
where the next one starts, and an error ends the work there.  Each piece has one rule, which says what
doing it amounts to in any world; the rules are all that later proofs need of programs.
-/

namespace TopicOperator.World

variable {α β : Type} (w : World) (topic : Topic)

theorem run_bind (program : Program α) (next : α → Program β) :
    w.run (program.bind next) = (w.run program).2.run (next (w.run program).1) := by
  induction program generalizing w with
  | done result => rfl
  | ask query rest ih => exact ih _ (w.answer query).2

/-- Goes on with the value of work that was done, where it was left; an error stays. -/
def Ran.andThen (ran : Ran α) (next : α → Work β) : Ran β :=
  match ran.result with
  | .ok value => ran.world.perform ran.topic (next value)
  | .error e => ⟨.error e, ran.topic, ran.world⟩

@[simp] theorem andThen_ok (value : α) (next : α → Work β) :
    Ran.andThen ⟨.ok value, topic, w⟩ next = w.perform topic (next value) := rfl

@[simp] theorem andThen_error (e : PassError) (next : α → Work β) :
    Ran.andThen ⟨.error e, topic, w⟩ next = ⟨.error e, topic, w⟩ := rfl

@[simp] theorem perform_pure (value : α) :
    w.perform topic (pure value) = ⟨.ok value, topic, w⟩ := rfl

@[simp] theorem perform_throw (e : PassError) :
    w.perform topic (throw e : Work α) = ⟨.error e, topic, w⟩ := rfl

@[simp] theorem perform_bind (work : Work α) (next : α → Work β) :
    w.perform topic (work >>= next) = (w.perform topic work).andThen next := by
  -- Down to programs, a bind is a bind that looks at the result and hands the topic on.
  have hbind : (work >>= next).run.run topic =
      (work.run.run topic).bind fun after =>
        match after.1 with
        | .ok value => (next value).run.run after.2
        | .error e => .done (.error e, after.2) := by
    show Program.bind (work.run.run topic) _ = _
    congr 1
    funext after
    obtain ⟨result, topic⟩ := after
    cases result <;> rfl
  unfold perform Ran.andThen
  rw [hbind, run_bind]
  obtain ⟨⟨result, after⟩, world⟩ := w.run (work.run.run topic)
  cases result <;> rfl

@[simp] theorem perform_map (f : α → β) (work : Work α) :
    w.perform topic (f <$> work) = (w.perform topic work).andThen fun value => pure (f value) := by
  rw [map_eq_pure_bind, perform_bind]

@[simp] theorem perform_ask (q : Query) :
    w.perform topic (Work.ask q) = ⟨.ok (w.answer q).1, topic, (w.answer q).2⟩ := rfl

@[simp] theorem perform_get : w.perform topic (get : Work Topic) = ⟨.ok topic, topic, w⟩ := rfl

@[simp] theorem perform_modify (f : Topic → Topic) :
    w.perform topic (modify f : Work PUnit) = ⟨.ok ⟨⟩, f topic, w⟩ := rfl

/-- Attempted work does not fail; its outcome becomes the value. -/
@[simp] theorem perform_attempt (work : Work α) :
    w.perform topic (Work.attempt work) =
      ⟨.ok (w.perform topic work).result, (w.perform topic work).topic,
        (w.perform topic work).world⟩ := by
  show (let after := w.run (Program.bind (work.run.run topic) fun after =>
      .done (.ok after.1, after.2)); (⟨after.1.1, after.1.2, after.2⟩ : Ran _)) = _
  simp only [run_bind]
  rfl

@[simp] theorem perform_log (level : Level) (message : String) (fields : List (String × String)) :
    w.perform topic (Work.log level message fields) =
      ⟨.ok (), topic, w.log [{ level := level, message := message, fields := fields }]⟩ := rfl

@[simp] theorem perform_orElse_ok {ε : Type} (value : α) (error : ε → PassError) :
    w.perform topic (Work.orElse (.ok value) error) = ⟨.ok value, topic, w⟩ := rfl

@[simp] theorem perform_orElse_error {ε : Type} (cause : ε) (error : ε → PassError) :
    w.perform topic (Work.orElse (.error cause) error : Work α) =
      ⟨.error (error cause), topic, w⟩ := rfl

/-- The outcome of a write, which leaves the topic as it is. -/
theorem perform_write (change : StoreWrite)
    (error : StoreError → PassError) :
    w.perform topic (Work.write change error) =
      ⟨(w.store.write topic change).1.mapError error, topic,
        { w with store := (w.store.write topic change).2 }⟩ := by
  simp only [Work.write, perform_bind, perform_get, perform_ask, andThen_ok, answer]
  cases (w.store.write topic change).1 with
  | ok value => rfl
  | error cause => rfl

/-- No call gets on its way with a cancelled token. -/
theorem call_of_cancelled {w : World} (hw : w.cancelled = true) (operation : Operation)
    (address : String) (act : Remote → Except RemoteError α × Remote) :
    w.call operation address act = (.error .cancelled, w) := by
  simp [call, encounter, hw]

/-- Once the token is cancelled it stays so, and no answer touches the remote service. -/
theorem answer_of_cancelled {w : World} (hw : w.cancelled = true) (q : Query) :
    (w.answer q).2.cancelled = true ∧ (w.answer q).2.remote = w.remote := by
  cases q with
  | fetchAttributes | fetchTags | mutate =>
      rw [answer, call_of_cancelled hw]
      exact ⟨hw, rfl⟩
  | connect region =>
      rw [answer, connect]
      cases w.connectRefusal with
      | none => exact ⟨hw, rfl⟩
      | some text => exact ⟨hw, rfl⟩
  | now | write | log | patchFinalizers => exact ⟨hw, rfl⟩

/-- No program reaches the remote service with a cancelled token. -/
theorem remote_run_of_cancelled {w : World} (hw : w.cancelled = true) (program : Program α) :
    (w.run program).2.remote = w.remote := by
  induction program generalizing w with
  | done result => rfl
  | ask query next ih =>
      obtain ⟨hstill, hremote⟩ := answer_of_cancelled hw query
      rw [← hremote]
      exact ih _ hstill

theorem remote_perform_of_cancelled {w : World} (hw : w.cancelled = true) (topic : Topic)
    (work : Work α) : (w.perform topic work).world.remote = w.remote :=
  remote_run_of_cancelled hw (work.run.run topic)

/-- What happens to a call on its way does not depend on the remote service, nor on the store, the clock
and the log of events. -/
theorem encounter_elsewhere (w : World) (remote : Remote) (store : Store) (clock : Instant)
    (events : List Event) (operation : Operation) (address : String) :
    ({ w with remote := remote, store := store, clock := clock, events := events } : World).encounter
        operation address =
      ((w.encounter operation address).1, { (w.encounter operation address).2 with
        remote := remote, store := store, clock := clock, events := events }) := by
  simp only [encounter]
  split
  · rfl
  · split
    · rfl
    · split
      · rfl
      · rename_i d _ _
        cases d.trouble with
        | none => rfl
        | some trouble => cases trouble <;> rfl

/-- A disturbance waits for calls of an operation, to answer that there is no such topic. -/
def Denies (w : World) (operation : Operation) : Prop :=
  ∃ d ∈ w.disturbances, d.operation = operation ∧ d.trouble = some .notFound

/-- On its way to the remote service a call changes only what waits for calls.  If it is answered that
there is no such topic, a disturbance says so. -/
theorem encounter_eq (w : World) (operation : Operation) (address : String) :
    (∃ cancelled elapsed disturbances, (w.encounter operation address).2 =
      { w with cancelled := cancelled, elapsed := elapsed, disturbances := disturbances }) ∧
    ∀ e, (w.encounter operation address).1 = .ok (some e) → e.isNotFound = true →
      w.Denies operation := by
  unfold encounter
  split
  · exact ⟨⟨_, _, _, rfl⟩, nofun⟩
  · split
    · exact ⟨⟨_, _, _, rfl⟩, nofun⟩
    · rename_i d hd
      dsimp only
      split
      · exact ⟨⟨_, _, _, rfl⟩, nofun⟩
      · cases htrouble : d.trouble with
        | none => exact ⟨⟨_, _, _, rfl⟩, nofun⟩
        | some trouble =>
            cases trouble with
            | cancel | cancelAndHang => exact ⟨⟨_, _, _, rfl⟩, nofun⟩
            | transport =>
                refine ⟨⟨_, _, _, rfl⟩, fun e he hnotFound => ?_⟩
                cases he
                cases hnotFound
            | notFound =>
                have hoperation := List.find?_some hd
                refine ⟨⟨_, _, _, rfl⟩, fun _ _ _ => ?_⟩
                exact ⟨d, List.mem_of_find?_eq_some hd, of_decide_eq_true hoperation, htrouble⟩

/-- A call leaves store, clock and region alone.  Either it reaches the remote service and is answered by
it, or it does nothing there and is answered with an error, if at all. -/
theorem call_eq (w : World) (operation : Operation) (address : String)
    (act : Remote → Except RemoteError α × Remote) :
    ∃ cancelled elapsed disturbances remote, (w.call operation address act).2 =
        { w with cancelled := cancelled, elapsed := elapsed, disturbances := disturbances,
                 remote := remote } ∧
      (remote = (act w.remote).2 ∧ (w.call operation address act).1 = .ok (act w.remote).1 ∨
        remote = w.remote ∧ ∀ answer, (w.call operation address act).1 = .ok answer →
          ∃ e, answer = .error e ∧ (e.isNotFound = true → w.Denies operation)) := by
  obtain ⟨⟨cancelled, elapsed, disturbances, hworld⟩, hdenies⟩ := w.encounter_eq operation address
  unfold call
  generalize w.encounter operation address = met at hworld hdenies
  obtain ⟨answer, world⟩ := met
  change world = _ at hworld
  subst hworld
  cases answer with
  | error interruption => exact ⟨_, _, _, _, rfl, .inr ⟨rfl, nofun⟩⟩
  | ok refusal =>
      cases refusal with
      | some refusal =>
          refine ⟨_, _, _, _, rfl, .inr ⟨rfl, fun answer hanswer => ?_⟩⟩
          exact ⟨refusal, (Except.ok.inj hanswer).symm, hdenies refusal rfl⟩
      | none => exact ⟨_, _, _, _, rfl, .inl ⟨rfl, rfl⟩⟩

/-- A call is answered in the same way whatever is in the store, on the clock and in the log of
events. -/
theorem call_elsewhere (w : World) (store : Store) (clock : Instant) (events : List Event)
    (operation : Operation) (address : String) (act : Remote → Except RemoteError α × Remote) :
    ({ w with store := store, clock := clock, events := events } : World).call operation address act =
      ((w.call operation address act).1, { (w.call operation address act).2 with
        store := store, clock := clock, events := events }) := by
  obtain ⟨⟨_, _, _, hworld⟩, -⟩ := w.encounter_eq operation address
  have hmet := w.encounter_elsewhere w.remote store clock events operation address
  unfold call
  rw [hmet]
  generalize w.encounter operation address = met at hworld
  obtain ⟨answer, world⟩ := met
  obtain rfl : world = _ := hworld
  rcases answer with interruption | (_ | refusal) <;> rfl

/-- A changing call reaches the remote service or leaves it alone, and is then answered with an error, if
at all. -/
theorem answer_mutate (w : World) (m : Mutation) :
    (w.answer (.mutate m)).2.region = w.region ∧
      ((w.answer (.mutate m)).2.remote = (w.remote.mutate w.region m).2 ∧
          (w.answer (.mutate m)).1 = .ok (w.remote.mutate w.region m).1 ∨
        (w.answer (.mutate m)).2.remote = w.remote ∧ ∀ answer,
          (w.answer (.mutate m)).1 = .ok answer →
            ∃ e, answer = .error e ∧ (e.isNotFound = true → w.Denies m.operation)) := by
  obtain ⟨_, _, _, remote, hworld, hremote⟩ :=
    w.call_eq m.operation m.address fun r => r.mutate w.region m
  change (w.answer (.mutate m)).2 = _ at hworld
  rw [hworld]
  exact ⟨rfl, hremote⟩

/-- Only a changing call reaches what the remote service keeps. -/
theorem remote_answer {w : World} {q : Query} (hq : ∀ m, q ≠ .mutate m) :
    (w.answer q).2.remote = w.remote := by
  have hread : ∀ {α : Type} (operation : Operation) (address : String)
      (answer : Remote → Except RemoteError α),
      (w.call operation address fun remote => (answer remote, remote)).2.remote = w.remote := by
    intro α operation address answer
    obtain ⟨_, _, _, _, hworld, ⟨hsame, -⟩ | ⟨hsame, -⟩⟩ :=
      w.call_eq operation address fun remote => (answer remote, remote)
    · rw [hworld, hsame]
    · rw [hworld, hsame]
  cases q with
  | fetchAttributes | fetchTags => exact hread _ _ _
  | mutate m => exact absurd rfl (hq m)
  | connect place =>
      rw [answer, connect]
      cases w.connectRefusal <;> rfl
  | now | write | log | patchFinalizers => rfl

end TopicOperator.World
