import TopicOperator.Proofs.Pass.Calm
import TopicOperator.Proofs.Work.Triple

/-!
# Conditions that last through a pass

Most of a pass only looks: it reads the remote topic, asks for the time and logs.  Besides, it keeps the
status.  A condition that none of this touches lasts through a pass if it lasts through the parts that do
more, which are to fill parameters, to create the remote topic and to revise it.
-/

namespace TopicOperator

open World Work Lifecycle

namespace World

/-- Reading attributes changes only what waits for calls. -/
theorem answer_fetchAttributes (w : World) (identity : String) :
    ∃ cancelled elapsed disturbances, (w.answer (.fetchAttributes identity)).2 =
      { w with cancelled := cancelled, elapsed := elapsed, disturbances := disturbances } := by
  obtain ⟨_, _, _, _, hworld, ⟨rfl, -⟩ | ⟨rfl, -⟩⟩ := w.call_eq .getTopicAttributes identity
    fun r => (r.fetchAttributes identity, r)
  · exact ⟨_, _, _, hworld⟩
  · exact ⟨_, _, _, hworld⟩

/-- Reading tags changes only what waits for calls. -/
theorem answer_fetchTags (w : World) (identity : String) :
    ∃ cancelled elapsed disturbances, (w.answer (.fetchTags identity)).2 =
      { w with cancelled := cancelled, elapsed := elapsed, disturbances := disturbances } := by
  obtain ⟨_, _, _, _, hworld, ⟨rfl, -⟩ | ⟨rfl, -⟩⟩ := w.call_eq .listTags identity
    fun r => (r.fetchTags identity, r)
  · exact ⟨_, _, _, hworld⟩
  · exact ⟨_, _, _, hworld⟩

end World

namespace Work

/-- A condition that looking at the remote topic does not touch. -/
structure Overlooks (inv : World → Topic → Prop) : Prop where
  log : ∀ event, AnswerKeeps inv (.log event)
  fetchAttributes : ∀ identity, AnswerKeeps inv (.fetchAttributes identity)
  fetchTags : ∀ identity, AnswerKeeps inv (.fetchTags identity)

/-- A condition that keeping the status does not touch. -/
structure Lasts (inv : World → Topic → Prop) : Prop where
  log : ∀ event, AnswerKeeps inv (.log event)
  now : AnswerKeeps inv .now
  writeStatus : ∀ topic status, AnswerKeeps inv (.write topic (.status status))
  setStatus : ∀ w topic status, inv w topic → inv w (topic.withStatus status)

section Observe

variable {inv : World → Topic → Prop} {fail : PassError → World → Topic → Prop}
  (hinv : Overlooks inv)
  (hfail : ∀ e : PassError, ¬ e.LosesIdentity → ∀ w t, inv w t → fail e w t)
  (hfill : ∀ snapshot, Keeps inv fail (fillParameters snapshot))

include hinv hfail hfill

theorem Overlooks.observeTags (identity : String) (attributes : ObservedAttributes) :
    Keeps inv fail (observeTags identity attributes) := by
  refine (Keeps.ask (hinv.fetchTags identity)).bind fun answer => ?_
  refine (Keeps.called hfail .listTags answer).bind fun tags => ?_
  cases tags with
  | ok tags => exact (hfill _).bind fun _ => Keeps.get.bind fun _ => Keeps.pure _
  | error cause =>
      cases cause with
      | notFound => exact (Keeps.log hinv.log _ _ _).bind fun _ => Keeps.pure _
      | transport => exact Meets.throw _ (hfail _ not_false)

theorem Overlooks.observe : Keeps inv fail observe := by
  refine Keeps.get.bind fun topic => ?_
  cases topic.externalName with
  | none => exact (Keeps.log hinv.log _ _ _).bind fun _ => Keeps.pure _
  | some identity =>
      refine (Keeps.ask (hinv.fetchAttributes identity)).bind fun answer => ?_
      refine (Keeps.called hfail .getTopicAttributes answer).bind fun attributes => ?_
      cases attributes with
      | ok attributes => exact hinv.observeTags hfail hfill identity attributes
      | error cause =>
          cases cause with
          | notFound => exact (Keeps.log hinv.log _ _ _).bind fun _ => Keeps.pure _
          | transport => exact Meets.throw _ (hfail _ not_false)

end Observe

namespace Lasts

variable {inv : World → Topic → Prop} {fail : PassError → World → Topic → Prop} (hinv : Lasts inv)

include hinv

theorem nextStatus (updates : List Condition) (observation : Option Observation) :
    Keeps inv fail (nextStatus updates observation) :=
  Keeps.get.bind fun _ => (Keeps.ask hinv.now).bind fun _ => Keeps.pure _

theorem persistStatus (hfail : ∀ cause w t, inv w t → fail (.persistStatus cause) w t)
    (status : Status) : Keeps inv fail (persistStatus status) := by
  refine Keeps.get.bind fun topic => ?_
  split
  · exact Keeps.pure ()
  · exact (Keeps.write (fun written => hinv.writeStatus written status) hfail).bind fun _ =>
      Meets.modify fun w t h => hinv.setStatus w t status h

/-- Recording an error fails for nobody but the log. -/
theorem recordFailure (e : PassError) : Keeps inv fail (recordFailure e) := by
  refine (hinv.nextStatus _ none).bind fun status => ?_
  have hpersist : Keeps inv (fun _ => inv) (Lifecycle.persistStatus status) :=
    hinv.persistStatus (fun _ _ _ h => h) status
  refine hpersist.attempt.bind fun outcome => ?_
  cases outcome with
  | ok value => exact Keeps.pure ()
  | error cause => exact hinv.log _

/-- A condition lasts through a pass if it lasts through the parts that do more than look. -/
theorem reconcile (hlook : Overlooks inv)
    (hfail : ∀ e : PassError, ¬ e.LosesIdentity → ∀ w t, inv w t → fail e w t)
    (hfill : ∀ snapshot, Keeps inv fail (fillParameters snapshot))
    (hcreate : Keeps inv fail create)
    (hrevise : ∀ identity, ∀ m : Mutation, m.Revises identity → AnswerKeeps inv (.mutate m))
    (hrecord : ∀ e, Meets (fail e) (Lifecycle.recordFailure e) (fun _ => fail e) fail) :
    Keeps inv fail reconcile := by
  have hconverge : Keeps inv fail converge := by
    refine (hlook.observe hfail hfill).bind fun sighting => ?_
    cases sighting with
    | absent =>
        exact hcreate.bind fun _ => (hinv.nextStatus _ none).bind fun _ => Keeps.pure _
    | present identity snapshot upToDate filled =>
        have halign := Keeps.align hfail hinv.log (hrevise identity) snapshot upToDate
        exact halign.bind fun _ => (hinv.nextStatus _ _).bind fun _ => Keeps.pure _
  refine hconverge.attempt.bind fun outcome => ?_
  cases outcome with
  | ok value =>
      obtain ⟨outcome, status⟩ := value
      exact (hinv.persistStatus (fun _ => hfail _ not_false) status).bind fun _ => Keeps.pure outcome
  | error e => exact (hrecord e).bind fun _ => Meets.throw e fun _ _ h => h

end Lasts

end Work

end TopicOperator
