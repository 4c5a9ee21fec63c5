import TopicOperator.Proofs.Work.Rules

/-!
# Dialogues of work

Work asks queries and goes on with the answers, whoever gives them.  A dialogue is the list of its
queries with their answers, and what is true of all dialogues of a piece of work is true in any
world, with any client and any store.  There is one rule for each way to put work together, as for
what work does in a world; in a world the dialogue is the one that the answers of this world make.
-/

namespace TopicOperator

variable {α β : Type}

/-- A query with the answer to it. -/
structure Exchange where
  query : Query
  answer : query.Answer

/-- Exchanges, one after the other. -/
abbrev Dialogue := List Exchange

/-- A program goes through a dialogue and ends with a result, whoever gave the answers. -/
inductive Program.Speaks : Program α → Dialogue → α → Prop
  | done (result : α) : Speaks (.done result) [] result
  | ask {query : Query} {next : query.Answer → Program α} (answer : query.Answer)
      {talk : Dialogue} {result : α} (rest : Speaks (next answer) talk result) :
      Speaks (.ask query next) (⟨query, answer⟩ :: talk) result

namespace Program

theorem speaks_done_iff {value result : α} {talk : Dialogue} :
    (done value).Speaks talk result ↔ talk = [] ∧ result = value := by
  constructor
  · intro h
    cases h
    exact ⟨rfl, rfl⟩
  · rintro ⟨rfl, rfl⟩
    exact .done _

theorem speaks_ask_iff {query : Query} {next : query.Answer → Program α} {talk : Dialogue}
    {result : α} : (ask query next).Speaks talk result ↔
      ∃ answer rest, talk = ⟨query, answer⟩ :: rest ∧ (next answer).Speaks rest result := by
  constructor
  · intro h
    cases h with
    | ask answer rest => exact ⟨answer, _, rfl, rest⟩
  · rintro ⟨answer, rest, rfl, h⟩
    exact .ask answer h

/-- A dialogue of one program after the other is one dialogue after the other. -/
theorem speaks_bind_iff {program : Program α} {next : α → Program β} {talk : Dialogue}
    {result : β} : (program.bind next).Speaks talk result ↔
      ∃ first second value, talk = first ++ second ∧ program.Speaks first value ∧
        (next value).Speaks second result := by
  induction program generalizing talk with
  | done value =>
      constructor
      · intro h
        exact ⟨[], talk, value, rfl, .done value, h⟩
      · rintro ⟨_, _, _, rfl, hfirst, hsecond⟩
        obtain ⟨rfl, rfl⟩ := speaks_done_iff.1 hfirst
        exact hsecond
  | ask query rest ih =>
      simp only [bind, speaks_ask_iff, ih]
      constructor
      · rintro ⟨answer, _, rfl, first, second, value, rfl, hfirst, hsecond⟩
        exact ⟨⟨query, answer⟩ :: first, second, value, rfl, ⟨answer, first, rfl, hfirst⟩, hsecond⟩
      · rintro ⟨_, second, value, rfl, ⟨answer, first, rfl, hfirst⟩, hsecond⟩
        exact ⟨answer, first ++ second, rfl, first, second, value, rfl, hfirst, hsecond⟩

/-- A program is determined by the answers: it goes only one way as long as they are the same. -/
theorem Speaks.unique {program : Program α} {first second talk : Dialogue} {a b : α}
    (ha : program.Speaks first a) (hb : program.Speaks second b) (hfirst : first <+: talk)
    (hsecond : second <+: talk) : first = second ∧ a = b := by
  induction ha generalizing second talk with
  | done result =>
      obtain ⟨rfl, rfl⟩ := speaks_done_iff.1 hb
      exact ⟨rfl, rfl⟩
  | ask answer _ ih =>
      obtain ⟨other, rest, rfl, hrest⟩ := speaks_ask_iff.1 hb
      obtain ⟨more, rfl⟩ := hfirst
      obtain ⟨hhead, htail⟩ := List.cons_prefix_cons.1 hsecond
      cases hhead
      obtain ⟨rfl, rfl⟩ := ih hrest (List.prefix_append _ more) htail
      exact ⟨rfl, rfl⟩

end Program

/-- The error of a call that has no answer. -/
def Interruption.failure (operation : Operation) : Interruption → PassError
  | .cancelled => .cancelled operation.name
  | .timedOut limit => .timedOut operation.name limit

namespace Work

/-- Work on a topic goes through a dialogue and ends with a result and a topic, whoever gave the
answers. -/
def Unfolds (work : Work α) (start : Topic) (talk : Dialogue) (result : Except PassError α)
    (stop : Topic) : Prop :=
  (work.run.run start).Speaks talk (result, stop)

/-- However work on a topic goes, it ends as told. -/
def Tells (work : Work α) (start : Topic)
    (post : Dialogue → Except PassError α → Topic → Prop) : Prop :=
  ∀ talk result stop, work.Unfolds start talk result stop → post talk result stop

theorem Tells.mono {work : Work α} {t : Topic}
    {post post' : Dialogue → Except PassError α → Topic → Prop} (h : work.Tells t post)
    (himp : ∀ talk result stop, post talk result stop → post' talk result stop) :
    work.Tells t post' :=
  fun talk result stop hwork => himp talk result stop (h talk result stop hwork)

section Rules

variable {t : Topic} {post : Dialogue → Except PassError α → Topic → Prop}

theorem run_bind (work : Work α) (next : α → Work β) (topic : Topic) :
    (work >>= next).run.run topic =
      (work.run.run topic).bind fun after =>
        match after.1 with
        | .ok value => (next value).run.run after.2
        | .error e => .done (.error e, after.2) := by
  show Program.bind (work.run.run topic) _ = _
  congr 1
  funext after
  obtain ⟨result, topic⟩ := after
  cases result <;> rfl

theorem unfolds_bind_iff {work : Work α} {next : α → Work β} {talk : Dialogue}
    {result : Except PassError β} {stop : Topic} :
    (work >>= next).Unfolds t talk result stop ↔
      (∃ e, result = .error e ∧ work.Unfolds t talk (.error e) stop) ∨
      ∃ first second value middle, talk = first ++ second ∧
        work.Unfolds t first (.ok value) middle ∧ (next value).Unfolds middle second result stop := by
  unfold Unfolds
  rw [run_bind, Program.speaks_bind_iff]
  constructor
  · rintro ⟨first, second, ⟨value | e, middle⟩, rfl, hfirst, hsecond⟩
    · obtain ⟨rfl, hend⟩ := Program.speaks_done_iff.1 hsecond
      cases hend
      rw [List.append_nil]
      exact .inl ⟨_, rfl, hfirst⟩
    · exact .inr ⟨first, second, _, middle, rfl, hfirst, hsecond⟩
  · rintro (⟨e, rfl, h⟩ | ⟨first, second, value, middle, rfl, hfirst, hsecond⟩)
    · exact ⟨talk, [], (.error e, stop), (List.append_nil _).symm, h, .done _⟩
    · exact ⟨first, second, (.ok value, middle), rfl, hfirst, hsecond⟩

/-- Attempted work goes through the same dialogue. -/
theorem unfolds_attempt_iff {work : Work α} {talk : Dialogue}
    {result : Except PassError (Except PassError α)} {stop : Topic} :
    (attempt work).Unfolds t talk result stop ↔
      ∃ inner, result = .ok inner ∧ work.Unfolds t talk inner stop := by
  show (Program.bind (work.run.run t) fun after =>
    .done (Except.ok (ε := PassError) after.1, after.2)).Speaks talk (result, stop) ↔ _
  rw [Program.speaks_bind_iff]
  constructor
  · rintro ⟨first, second, ⟨inner, middle⟩, rfl, hfirst, hsecond⟩
    obtain ⟨rfl, hend⟩ := Program.speaks_done_iff.1 hsecond
    cases hend
    rw [List.append_nil]
    exact ⟨inner, rfl, hfirst⟩
  · rintro ⟨inner, rfl, h⟩
    exact ⟨talk, [], (inner, stop), (List.append_nil _).symm, h, .done _⟩

theorem tells_pure_iff {value : α} :
    (pure value : Work α).Tells t post ↔ post [] (.ok value) t := by
  constructor
  · intro h
    exact h _ _ _ (.done _)
  · intro h talk result stop hwork
    obtain ⟨rfl, hend⟩ := Program.speaks_done_iff.1 hwork
    cases hend
    exact h

theorem tells_throw_iff {e : PassError} :
    (throwThe PassError e : Work α).Tells t post ↔ post [] (.error e) t := by
  constructor
  · intro h
    exact h _ _ _ (.done _)
  · intro h talk result stop hwork
    obtain ⟨rfl, hend⟩ := Program.speaks_done_iff.1 hwork
    cases hend
    exact h

theorem tells_modify_iff {f : Topic → Topic}
    {post : Dialogue → Except PassError PUnit → Topic → Prop} :
    (modify f : Work PUnit).Tells t post ↔ post [] (.ok ⟨⟩) (f t) := by
  constructor
  · intro h
    exact h _ _ _ (.done _)
  · intro h talk result stop hwork
    obtain ⟨rfl, hend⟩ := Program.speaks_done_iff.1 hwork
    cases hend
    exact h

theorem tells_get_iff {post : Dialogue → Except PassError Topic → Topic → Prop} :
    (get : Work Topic).Tells t post ↔ post [] (.ok t) t :=
  tells_pure_iff

theorem tells_ask_iff {q : Query} {post : Dialogue → Except PassError q.Answer → Topic → Prop} :
    (ask q).Tells t post ↔ ∀ answer, post [⟨q, answer⟩] (.ok answer) t := by
  constructor
  · intro h answer
    exact h _ _ _ (.ask answer (.done _))
  · intro h talk result stop hwork
    obtain ⟨answer, rest, rfl, hrest⟩ := Program.speaks_ask_iff.1 hwork
    obtain ⟨rfl, hend⟩ := Program.speaks_done_iff.1 hrest
    cases hend
    exact h answer

/-- An error of the first piece of work ends it; else the second piece goes on. -/
theorem tells_bind_iff {work : Work α} {next : α → Work β}
    {post : Dialogue → Except PassError β → Topic → Prop} :
    (work >>= next).Tells t post ↔ work.Tells t fun talk result middle =>
      match result with
      | .ok value => (next value).Tells middle fun more => post (talk ++ more)
      | .error e => post talk (.error e) middle := by
  constructor
  · intro h talk result middle hfirst
    cases result with
    | ok value =>
        intro more result stop hsecond
        exact h _ _ _ (unfolds_bind_iff.2
          (.inr ⟨talk, more, value, middle, rfl, hfirst, hsecond⟩))
    | error e => exact h _ _ _ (unfolds_bind_iff.2 (.inl ⟨e, rfl, hfirst⟩))
  · intro h talk result stop hwork
    rcases unfolds_bind_iff.1 hwork with
      ⟨e, rfl, hfirst⟩ | ⟨first, second, value, middle, rfl, hfirst, hsecond⟩
    · exact h _ _ _ hfirst
    · exact h _ _ _ hfirst _ _ _ hsecond

theorem tells_attempt_iff {work : Work α}
    {post : Dialogue → Except PassError (Except PassError α) → Topic → Prop} :
    (attempt work).Tells t post ↔ work.Tells t fun talk result => post talk (.ok result) := by
  constructor
  · intro h talk result stop hwork
    exact h _ _ _ (unfolds_attempt_iff.2 ⟨result, rfl, hwork⟩)
  · intro h talk result stop hattempt
    obtain ⟨inner, rfl, hwork⟩ := unfolds_attempt_iff.1 hattempt
    exact h _ _ _ hwork

theorem tells_log_iff {level : Level} {message : String} {fields : List (String × String)}
    {post : Dialogue → Except PassError Unit → Topic → Prop} :
    (log level message fields).Tells t post ↔
      post [⟨.log ⟨level, message, fields⟩, ()⟩] (.ok ()) t :=
  tells_ask_iff.trans ⟨fun h => h (), fun h _ => h⟩

theorem tells_orElse_iff {ε : Type} {answer : Except ε α} {error : ε → PassError} :
    (orElse answer error).Tells t post ↔ post [] (answer.mapError error) t := by
  cases answer with
  | ok value => exact tells_pure_iff
  | error cause => exact tells_throw_iff

theorem tells_called_iff {operation : Operation} {answer : Called α}
    {post : Dialogue → Except PassError (Except RemoteError α) → Topic → Prop} :
    (called operation answer).Tells t post ↔
      post [] (answer.mapError (Interruption.failure operation)) t := by
  cases answer with
  | ok value => exact tells_pure_iff
  | error interruption =>
      cases interruption with
      | cancelled | timedOut => exact tells_throw_iff

theorem tells_mutate_iff {m : Mutation}
    {post : Dialogue → Except PassError (Except RemoteError String) → Topic → Prop} :
    (mutate m).Tells t post ↔ ∀ answer,
      post [⟨.mutate m, answer⟩] (answer.mapError (Interruption.failure m.operation)) t := by
  rw [mutate, tells_bind_iff, tells_ask_iff]
  exact forall_congr' fun answer => tells_called_iff

theorem tells_write_iff {change : StoreWrite} {error : StoreError → PassError}
    {post : Dialogue → Except PassError Unit → Topic → Prop} :
    (write change error).Tells t post ↔ ∀ answer,
      post [⟨.write t change, answer⟩] (answer.mapError error) t := by
  simp only [write, tells_bind_iff, tells_get_iff, tells_ask_iff, List.nil_append]
  exact forall_congr' fun answer => tells_orElse_iff

end Rules

end Work

namespace World

/-- The dialogue of a program in a world. -/
def dialogue (w : World) : Program α → Dialogue
  | .done _ => []
  | .ask query next =>
      ⟨query, (w.answer query).1⟩ :: (w.answer query).2.dialogue (next (w.answer query).1)

/-- The dialogue of work on a topic in a world. -/
def exchanges (w : World) (topic : Topic) (work : Work α) : Dialogue :=
  w.dialogue (work.run.run topic)

theorem speaks_dialogue (w : World) (program : Program α) :
    program.Speaks (w.dialogue program) (w.run program).1 := by
  induction program generalizing w with
  | done result => exact .done result
  | ask query next ih => exact .ask _ (ih _ _)

/-- What work does in a world is one way in which it can go. -/
theorem unfolds (w : World) (topic : Topic) (work : Work α) :
    work.Unfolds topic (w.exchanges topic work) (w.perform topic work).result
      (w.perform topic work).topic :=
  w.speaks_dialogue (work.run.run topic)

/-- A condition of worlds that is kept by each answer, as long as the queries are allowed, holds at
the end; and what is known of each answer where the condition holds is known of the whole
dialogue. -/
theorem dialogue_keeps (inv : World → Prop) (allowed : Query → Prop) (known : Exchange → Prop)
    (hanswer : ∀ w q, inv w → allowed q → inv (w.answer q).2 ∧ known ⟨q, (w.answer q).1⟩)
    {w : World} (hw : inv w) {program : Program α}
    (hallowed : ∀ e ∈ w.dialogue program, allowed e.query) :
    inv (w.run program).2 ∧ ∀ e ∈ w.dialogue program, known e := by
  induction program generalizing w with
  | done result => exact ⟨hw, fun _ he => absurd he List.not_mem_nil⟩
  | ask query next ih =>
      rw [dialogue, List.forall_mem_cons] at hallowed ⊢
      obtain ⟨hnext, hknown⟩ := hanswer w query hw hallowed.1
      obtain ⟨hend, hothers⟩ := ih (w.answer query).1 hnext hallowed.2
      exact ⟨hend, hknown, hothers⟩

theorem perform_keeps (inv : World → Prop) (allowed : Query → Prop) (known : Exchange → Prop)
    (hanswer : ∀ w q, inv w → allowed q → inv (w.answer q).2 ∧ known ⟨q, (w.answer q).1⟩)
    {w : World} (hw : inv w) {topic : Topic} {work : Work α}
    (hallowed : ∀ e ∈ w.exchanges topic work, allowed e.query) :
    inv (w.perform topic work).world ∧ ∀ e ∈ w.exchanges topic work, known e :=
  dialogue_keeps inv allowed known hanswer hw hallowed

end World

end TopicOperator
