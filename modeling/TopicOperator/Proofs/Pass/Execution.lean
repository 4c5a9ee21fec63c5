import TopicOperator.Proofs.Pass.Faultless

/-!
# Execution of a plan

An update makes the calls of its plan in order and stops at the first one that fails, whatever the
verdict, the remote topics and the failure announced.  Each call stands in the log; those before the
failing one have done their work, and the failing one has done nothing.  How a plan is executed is
found call by call: a call that is answered with an error ends it, and any other is put in front of
the execution of the rest.
-/

namespace TopicOperator

namespace Remote

/-- The answers to changing calls that are received one after the other. -/
def answers (region : String) : List Mutation → Remote → List (Except RemoteError String)
  | [], _ => []
  | m :: rest, remote =>
      (remote.mutate region m).1 :: answers region rest (remote.mutate region m).2

/-- Changing calls all succeed where they are received one after the other. -/
def Accepts (remote : Remote) (region : String) (ms : List Mutation) : Prop :=
  ∀ answer ∈ remote.answers region ms, answer.isOk = true

/-- The topics after changing calls were carried out one after the other. -/
def topicsAfter (region : String) (topics : TextMap RemoteTopic) (ms : List Mutation) :
    TextMap RemoteTopic :=
  ms.foldl (fun topics m => (change region m topics).2) topics

variable {region identity : String} {remote next after : Remote} {m : Mutation} {cause : RemoteError}

/-- How a plan is executed: the calls that are made, what comes of it, and what is left of the remote
service. -/
structure Executes (region : String) (plan : List Task) (before : Remote) (made : List Mutation)
    (result : Except PassError Unit) (after : Remote) : Prop where
  /-- The calls are made in the order of the plan, from its start. -/
  inOrder : made <+: plan.map Task.mutation
  /-- The calls that are made are logged, and no others. -/
  logged : after.calls = before.calls ++ made
  /-- It succeeds exactly when all calls of the plan are made and all of them succeed. -/
  succeeds : result = .ok () ↔ made = plan.map Task.mutation ∧ before.Accepts region made
  /-- If it succeeds, all calls are carried out. -/
  whole : result = .ok () → after.topics = topicsAfter region before.topics made
  /-- Otherwise the last call is the only one that fails, the error is the one of this call, and the
  calls before it are carried out, but nothing else is. -/
  stops : ∀ e, result = .error e → ∃ done task rest cause, plan = done ++ task :: rest ∧
    made = done.map Task.mutation ++ [task.mutation] ∧
    before.Accepts region (done.map Task.mutation) ∧
    before.answers region made =
      before.answers region (done.map Task.mutation) ++ [.error cause] ∧
    e = task.failure cause ∧ after.topics = topicsAfter region before.topics (done.map Task.mutation)

theorem accepts_nil (remote : Remote) (region : String) : remote.Accepts region [] :=
  fun _ h => absurd h List.not_mem_nil

theorem accepts_cons_iff {ms : List Mutation} : remote.Accepts region (m :: ms) ↔
    (remote.mutate region m).1.isOk = true ∧ (remote.mutate region m).2.Accepts region ms :=
  List.forall_mem_cons

theorem topicsAfter_cons {ms : List Mutation} (h : remote.mutate region m = (.ok identity, next)) :
    topicsAfter region remote.topics (m :: ms) = topicsAfter region next.topics ms := by
  rw [topics_of_mutate_ok h]
  rfl

namespace Executes

variable {task : Task} {rest : List Task} {made : List Mutation} {result : Except PassError Unit}

theorem nil (region : String) (remote : Remote) : Executes region [] remote [] (.ok ()) remote where
  inOrder := List.nil_prefix
  logged := (List.append_nil _).symm
  succeeds := ⟨fun _ => ⟨rfl, remote.accepts_nil region⟩, fun _ => rfl⟩
  whole _ := rfl
  stops _ he := by cases he

/-- A call that fails is the last one. -/
theorem refused (h : remote.mutate region task.mutation = (.error cause, next)) (rest : List Task) :
    Executes region (task :: rest) remote [task.mutation] (.error (task.failure cause)) next where
  inOrder := ⟨rest.map Task.mutation, rfl⟩
  logged := by
    have hcalls := remote.calls_mutate region task.mutation
    rwa [h] at hcalls
  succeeds := by
    refine ⟨nofun, fun ⟨_, haccepts⟩ => ?_⟩
    have hok := (accepts_cons_iff.1 haccepts).1
    rw [h] at hok
    cases hok
  whole := nofun
  stops := by
    rintro _ ⟨⟩
    refine ⟨[], task, rest, cause, rfl, rfl, remote.accepts_nil region, ?_, rfl,
      topics_of_mutate_error h⟩
    simp [answers, h]

/-- A call that succeeds comes before what is done after it. -/
theorem cons (h : remote.mutate region task.mutation = (.ok identity, next))
    (hrest : Executes region rest next made result after) :
    Executes region (task :: rest) remote (task.mutation :: made) result after where
  inOrder := List.cons_prefix_cons.2 ⟨rfl, hrest.inOrder⟩
  logged := by
    have hcalls := remote.calls_mutate region task.mutation
    rw [h] at hcalls
    rw [hrest.logged, hcalls, List.append_assoc, List.singleton_append]
  succeeds := by
    rw [hrest.succeeds, List.map_cons, List.cons_inj_right, accepts_cons_iff, h]
    exact and_congr_right fun _ => ⟨fun haccepts => ⟨rfl, haccepts⟩, And.right⟩
  whole hok := by
    rw [hrest.whole hok, topicsAfter_cons h]
  stops e he := by
    obtain ⟨done, last, others, cause, rfl, rfl, haccepts, hanswers, hcause, htopics⟩ :=
      hrest.stops e he
    refine ⟨task :: done, last, others, cause, rfl, rfl, ?_, ?_, hcause, ?_⟩
    · rw [List.map_cons, accepts_cons_iff, h]
      exact ⟨rfl, haccepts⟩
    · simp only [List.map_cons, answers, h, hanswers, List.cons_append]
    · rw [htopics, List.map_cons, topicsAfter_cons h]

end Executes

/-- A plan is executed call by call. -/
theorem carryOut_executes (region : String) (plan : List Task) (remote : Remote) :
    ∃ made, Executes region plan remote made (remote.carryOut region plan).1
      (remote.carryOut region plan).2 := by
  induction plan generalizing remote with
  | nil => exact ⟨[], .nil region remote⟩
  | cons task rest ih =>
      rw [carryOut]
      rcases hmutate : remote.mutate region task.mutation with ⟨cause | identity, next⟩
      · exact ⟨_, .refused hmutate rest⟩
      · obtain ⟨made, hmade⟩ := ih next
        exact ⟨_, hmade.cons hmutate⟩

end Remote

namespace Lifecycle

open World

variable {w : World}

/-- An update executes the plan of its verdict, wherever calls reach the remote service. -/
theorem update_executes (hw : w.Unhindered) (topic : Topic) (identity : String)
    (verdict : Verdict) : ∃ made, Remote.Executes w.region (verdict.plan identity) w.remote made
      (w.perform topic (update identity verdict)).result
      (w.perform topic (update identity verdict)).world.remote := by
  obtain ⟨events, h⟩ := update_carriesOut identity verdict w topic hw
  rw [h]
  exact Remote.carryOut_executes w.region (verdict.plan identity) w.remote

/-- An update that sets two flags and is stopped at the tags to remove, for which a failure was
announced. -/
theorem update_executes_announced :
    let w : World := { driftedWorld with remote := driftedWorld.remote.failOnCall 2 }
    let verdict : Verdict :=
      ⟨fun a => if a.comparison = .flag then some "true" else none,
        ⟨.ofList [("team", "c")], .ofList [("team", "a"), ("stage", "b")]⟩⟩
    w.Unhindered ∧
      (w.perform driftedTopic (update "arn:orders" verdict)).result =
        .error (.removeTags ["stage", "team"] (.transport "UntagResource" (.injected 2))) ∧
      ∃ made, Remote.Executes w.region (verdict.plan "arn:orders") w.remote made
        (w.perform driftedTopic (update "arn:orders" verdict)).result
        (w.perform driftedTopic (update "arn:orders" verdict)).world.remote := by
  intro w verdict
  have hw : w.Unhindered := ⟨rfl, rfl⟩
  exact ⟨hw, by decide, update_executes hw driftedTopic "arn:orders" verdict⟩

end Lifecycle

end TopicOperator
