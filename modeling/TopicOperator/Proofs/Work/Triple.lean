import TopicOperator.Proofs.Remote.Revision
import TopicOperator.Proofs.Work.Rules

/-!
# Conditions before and after work

Work that starts where one condition holds ends where another one holds, be it with a value or with an
error: a triple with two outcomes.  There is one rule for each way to put work together.  Work that keeps
a condition as long as the answers to its queries keep it is looked at once, whatever the condition.
-/

namespace TopicOperator

variable {α β : Type}

/-- How done work ends: with a value of which one condition holds, or with an error of which another
one holds. -/
def World.Ran.Ends (ran : World.Ran α) (post : α → World → Topic → Prop)
    (fail : PassError → World → Topic → Prop) : Prop :=
  match ran.result with
  | .ok value => post value ran.world ran.topic
  | .error e => fail e ran.world ran.topic

/-- An error that tells of a remote topic whose identity could not be recorded. -/
def PassError.LosesIdentity : PassError → Prop
  | .recordExternalName _ _ => True
  | _ => False

namespace Work

open World Lifecycle

/-- Work that starts where a condition holds ends as told. -/
def Meets (pre : World → Topic → Prop) (work : Work α) (post : α → World → Topic → Prop)
    (fail : PassError → World → Topic → Prop) : Prop :=
  ∀ w topic, pre w topic → (w.perform topic work).Ends post fail

/-- Work that keeps a condition unless it fails. -/
abbrev Keeps (inv : World → Topic → Prop) (fail : PassError → World → Topic → Prop) (work : Work α) :
    Prop :=
  Meets inv work (fun _ => inv) fail

/-- Work that keeps a condition, however it ends. -/
abbrev Preserves (inv : World → Topic → Prop) (work : Work α) : Prop :=
  Keeps inv (fun _ => inv) work

/-- A query whose answer keeps a condition. -/
def AnswerKeeps (inv : World → Topic → Prop) (q : Query) : Prop :=
  ∀ w topic, inv w topic → inv (w.answer q).2 topic

namespace Meets

variable {pre pre' : World → Topic → Prop} {post post' : α → World → Topic → Prop}
  {next : β → World → Topic → Prop} {fail fail' : PassError → World → Topic → Prop} {work : Work α}

theorem weaken (h : Meets pre work post fail) (hpre : ∀ w t, pre' w t → pre w t)
    (hpost : ∀ a w t, post a w t → post' a w t) (hfail : ∀ e w t, fail e w t → fail' e w t) :
    Meets pre' work post' fail' := by
  intro w t hstart
  have hend := h w t (hpre w t hstart)
  unfold Ran.Ends at hend ⊢
  split at hend
  · exact hpost _ _ _ hend
  · exact hfail _ _ _ hend

/-- Conditions that always hold are met by all work. -/
theorem always (hpost : ∀ a w t, post a w t) (hfail : ∀ e w t, fail e w t) :
    Meets pre work post fail := by
  intro w t _
  unfold Ran.Ends
  split
  · exact hpost _ _ _
  · exact hfail _ _ _

theorem pure (value : α) (h : ∀ w t, pre w t → post value w t) :
    Meets pre (Pure.pure value : Work α) post fail :=
  h

theorem throw (e : PassError) (h : ∀ w t, pre w t → fail e w t) :
    Meets pre (throwThe PassError e : Work α) post fail :=
  h

theorem bind (hfirst : Meets pre work post fail) {rest : α → Work β}
    (hrest : ∀ a, Meets (post a) (rest a) next fail) : Meets pre (work >>= rest) next fail := by
  intro w t hstart
  have hmiddle := hfirst w t hstart
  rw [perform_bind]
  generalize w.perform t work = ran at hmiddle
  obtain ⟨result, topic, world⟩ := ran
  cases result with
  | ok a => exact hrest a world topic hmiddle
  | error e => exact hmiddle

theorem ask {q : Query} {post : q.Answer → World → Topic → Prop}
    (h : ∀ w t, pre w t → post (w.answer q).1 (w.answer q).2 t) :
    Meets pre (Work.ask q) post fail :=
  h

theorem get {post : Topic → World → Topic → Prop} (h : ∀ w t, pre w t → post t w t) :
    Meets pre (MonadState.get : Work Topic) post fail :=
  h

theorem modify {f : Topic → Topic} {post : PUnit → World → Topic → Prop}
    (h : ∀ w t, pre w t → post ⟨⟩ w (f t)) : Meets pre (modify f : Work PUnit) post fail :=
  h

/-- A changing call ends with its answer, or with an error if it has none. -/
theorem mutate {m : Mutation} {post : Except RemoteError String → World → Topic → Prop}
    (hanswer : ∀ w t, pre w t → ∀ answer, (w.answer (.mutate m)).1 = .ok answer →
      post answer (w.answer (.mutate m)).2 t)
    (hnone : ∀ w t, pre w t → ∀ interruption, (w.answer (.mutate m)).1 = .error interruption →
      ∀ e : PassError, ¬ e.LosesIdentity → fail e (w.answer (.mutate m)).2 t) :
    Meets pre (Work.mutate m) post fail := by
  intro w t hstart
  simp only [Work.mutate, perform_bind, perform_ask, andThen_ok]
  cases hcalled : (w.answer (.mutate m)).1 with
  | ok answer => exact hanswer w t hstart answer hcalled
  | error interruption =>
      have hfail := hnone w t hstart interruption hcalled
      cases interruption with
      | cancelled | timedOut => exact hfail _ not_false

/-- What is known besides the condition may be used. -/
theorem of_and {fact : Prop} (h : fact → Meets pre work post fail) :
    Meets (fun w t => pre w t ∧ fact) work post fail :=
  fun w t hstart => h hstart.2 w t hstart.1

/-- Attempted work ends with its outcome as the value. -/
theorem attempt (h : Meets pre work post fail) :
    Meets pre (Work.attempt work)
      (fun outcome w t => match outcome with
        | .ok a => post a w t
        | .error e => fail e w t) fail' := by
  intro w t hstart
  have hend := h w t hstart
  rw [perform_attempt]
  exact hend

end Meets

namespace Keeps

variable {inv : World → Topic → Prop} {fail : PassError → World → Topic → Prop}

theorem pure (value : α) : Keeps inv fail (Pure.pure value : Work α) :=
  fun _ _ h => h

theorem get : Keeps inv fail (MonadState.get : Work Topic) :=
  fun _ _ h => h

theorem modify {f : Topic → Topic} (h : ∀ w t, inv w t → inv w (f t)) :
    Keeps inv fail (modify f : Work PUnit) :=
  h

theorem ask {q : Query} (h : AnswerKeeps inv q) : Keeps inv fail (Work.ask q) :=
  h

theorem bind {work : Work α} {rest : α → Work β} (hfirst : Keeps inv fail work)
    (hrest : ∀ a, Keeps inv fail (rest a)) : Keeps inv fail (work >>= rest) :=
  Meets.bind hfirst hrest

theorem log (h : ∀ event, AnswerKeeps inv (.log event)) (level : Level) (message : String)
    (fields : List (String × String)) : Keeps inv fail (Work.log level message fields) :=
  ask (h _)

theorem orElse {ε : Type} (answer : Except ε α) {error : ε → PassError}
    (hfail : ∀ cause w t, inv w t → fail (error cause) w t) :
    Keeps inv fail (Work.orElse answer error) := by
  cases answer with
  | ok value => exact pure value
  | error cause => exact Meets.throw _ (hfail cause)

theorem write {change : StoreWrite} (h : ∀ topic, AnswerKeeps inv (.write topic change))
    {error : StoreError → PassError} (hfail : ∀ cause w t, inv w t → fail (error cause) w t) :
    Keeps inv fail (Work.write change error) :=
  get.bind fun topic => (ask (h topic)).bind fun answer => orElse answer hfail

section Calls

variable (hfail : ∀ e : PassError, ¬ e.LosesIdentity → ∀ w t, inv w t → fail e w t)

include hfail

theorem called (operation : Operation) (answer : Called α) :
    Keeps inv fail (Work.called operation answer) := by
  cases answer with
  | ok value => exact pure value
  | error interruption =>
      cases interruption with
      | cancelled | timedOut => exact Meets.throw _ (hfail _ not_false)

theorem mutate {m : Mutation} (h : AnswerKeeps inv (.mutate m)) : Keeps inv fail (Work.mutate m) :=
  (ask h).bind fun answer => called hfail m.operation answer

/-- A changing call that must succeed, before other work. -/
theorem call {m : Mutation} (h : AnswerKeeps inv (.mutate m)) (error : RemoteError → PassError)
    (herror : ∀ cause, ¬ (error cause).LosesIdentity) {next : Work α} (hnext : Keeps inv fail next) :
    Keeps inv fail (do let _ ← Work.orElse (← Work.mutate m) error; next) :=
  (mutate hfail h).bind fun answer =>
    (orElse answer fun cause => hfail _ (herror cause)).bind fun _ => hnext

/-- A changing call before other work, made only where there is something to do. -/
theorem callUnless (idle : Bool) {m : Mutation} (h : AnswerKeeps inv (.mutate m))
    (error : RemoteError → PassError) (herror : ∀ cause, ¬ (error cause).LosesIdentity)
    {next : Work α} (hnext : Keeps inv fail next) :
    Keeps inv fail
      (if idle then next else do let _ ← Work.orElse (← Work.mutate m) error; next) := by
  cases idle with
  | true => exact hnext
  | false => exact call hfail h error herror hnext

variable {identity : String} (hlog : ∀ event, AnswerKeeps inv (.log event))
  (hrevise : ∀ m : Mutation, m.Revises identity → AnswerKeeps inv (.mutate m))

include hlog hrevise

theorem setAttributes (changes : List (Attribute × String)) :
    Keeps inv fail (Lifecycle.setAttributes identity changes) := by
  induction changes with
  | nil => exact pure ()
  | cons change rest ih =>
      refine call hfail (hrevise (.setAttribute identity change.1.name change.2) rfl)
        (.updateAttribute change.1) (fun _ => not_false) ?_
      exact (log hlog _ _ _).bind fun _ => ih

theorem update (verdict : Verdict) : Keeps inv fail (Lifecycle.update identity verdict) := by
  have hlast : Keeps inv fail (Work.log .info "updated remote topic" [("identity", identity),
      ("attributes", Number.decimal verdict.attributes.toList.length),
      ("tags_added", Number.decimal verdict.tags.toAdd.size),
      ("tags_removed", Number.decimal verdict.tags.toRemove.size)]) := log hlog _ _ _
  have hadd := callUnless hfail verdict.tags.toAdd.isEmpty
    (hrevise (.addTags identity verdict.tags.tagsToAdd) rfl) .addTags (fun _ => not_false) hlast
  have hremove := callUnless hfail verdict.tags.toRemove.isEmpty
    (hrevise (.removeTags identity verdict.tags.keysToRemove) rfl)
    (.removeTags verdict.tags.keysToRemove) (fun _ => not_false) hadd
  exact (setAttributes hfail hlog hrevise _).bind fun _ => hremove

theorem align (snapshot : Snapshot) (upToDate : Bool) :
    Keeps inv fail (Lifecycle.align identity snapshot upToDate) := by
  cases upToDate with
  | true => exact pure _
  | false => exact get.bind fun _ => (update hfail hlog hrevise _).bind fun _ => pure _

end Calls

end Keeps

namespace Preserves

variable {inv : World → Topic → Prop} {work : Work α}

theorem after (h : Preserves inv work) {w : World} {topic : Topic} (hstart : inv w topic) :
    inv (w.perform topic work).world (w.perform topic work).topic := by
  have hend := h w topic hstart
  unfold Ran.Ends at hend
  split at hend
  · exact hend
  · exact hend

theorem keeps (h : Preserves inv work) {fail : PassError → World → Topic → Prop}
    (hfail : ∀ e w t, inv w t → fail e w t) : Meets inv work (fun _ => inv) fail :=
  h.weaken (fun _ _ h => h) (fun _ _ _ h => h) hfail

end Preserves

end Work

end TopicOperator
