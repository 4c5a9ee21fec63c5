import TopicOperator.Proofs.Store.Faithful
import TopicOperator.Proofs.Work.Triple

/-!
# Runs of work on one topic

Pieces of work on one topic, one after the other, with pauses in which the world may change.  What holds
at the start, survives the pauses and is kept by each piece of work holds after every run.
-/

namespace TopicOperator

open World Work

variable {α : Type}

/-- A run of work from a world and a topic, with the results so far and the world and the topic that it
leaves.  Before each piece of work there is a pause. -/
inductive Run (pause : World → World → Prop) (task : Work α → Prop) (w₀ : World) (t₀ : Topic) :
    List (Except PassError α) → World → Topic → Prop
  | start : Run pause task w₀ t₀ [] w₀ t₀
  | step {results : List (Except PassError α)} {w w' : World} {t : Topic} {work : Work α} :
      Run pause task w₀ t₀ results w t → pause w w' → task work →
      Run pause task w₀ t₀ (results ++ [(w'.perform t work).result]) (w'.perform t work).world
        (w'.perform t work).topic

namespace Run

variable {pause : World → World → Prop} {task : Work α → Prop} {w₀ w : World} {t₀ t : Topic}
  {results : List (Except PassError α)}

/-- A condition that may look at the results: one form of it holds between the pieces of work, another
one where such a piece starts. -/
theorem holds (hrun : Run pause task w₀ t₀ results w t)
    (inv ready : List (Except PassError α) → World → Topic → Prop) (hstart : inv [] w₀ t₀)
    (hpause : ∀ results w w' t, inv results w t → pause w w' → ready results w' t)
    (hwork : ∀ results work, task work → Meets (ready results) work
      (fun a => inv (results ++ [.ok a])) fun e => inv (results ++ [.error e])) :
    inv results w t := by
  induction hrun with
  | start => exact hstart
  | @step results w w' t work _ hbetween htask ih =>
      have hend := hwork results work htask w' t (hpause _ _ _ _ ih hbetween)
      generalize w'.perform t work = ran at hend
      obtain ⟨result, topic, world⟩ := ran
      cases result with
      | ok a => exact hend
      | error e => exact hend

end Run

/-- A pause in which anything may happen but to the stored object, which stays at a faithful server. -/
structure World.Pause (w w' : World) : Prop where
  object : w'.store.object? = w.store.object?
  faithful : w'.store.IsFaithful

theorem World.Pause.holds {w w' : World} (h : w.Pause w') {object : Json}
    (hobject : w.store.object? = some object) : w'.store.Holds object :=
  ⟨h.faithful, h.object.trans hobject⟩

end TopicOperator
