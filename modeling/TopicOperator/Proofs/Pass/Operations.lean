import TopicOperator.Proofs.Pass.RecordedIdentity

/-!
# Operations of the lifecycle

The lifecycle offers the two kinds of passes, and the operations that passes are made of.  An update
may be asked for any identity and any verdict, be they what an observation came to or not.
-/

namespace TopicOperator.Lifecycle

open Work

/-- A piece of work is an operation that the lifecycle offers. -/
inductive Offers : {α : Type} → Work α → Prop
  | reconcile : Offers Lifecycle.reconcile
  | cleanup : Offers Lifecycle.cleanup
  | observe : Offers Lifecycle.observe
  | create : Offers Lifecycle.create
  | update (identity : String) (verdict : Verdict) : Offers (Lifecycle.update identity verdict)
  | delete : Offers Lifecycle.delete

variable {α : Type} {work : Work α} {t t' : Topic} {talk : Dialogue} {result : Except PassError α}

/-- No operation connects to another region. -/
theorem not_connect_of_offers (hwork : Offers work) (h : work.Unfolds t talk result t') :
    ∀ e ∈ talk, ∀ place, e.query ≠ .connect place := by
  cases hwork with
  | reconcile => exact not_connect_of_pass (.inl rfl) h
  | cleanup => exact not_connect_of_pass (.inr rfl) h
  | observe => exact not_connect_of_stage ((observe_staged t _ _ _ h).1.weaken fun _ _ hq => hq.1.1)
  | create => exact not_connect_of_stage ((create_staged t _ _ _ h).1.weaken fun _ _ hq => hq.1.1)
  | delete => exact not_connect_of_stage (stage_of_deletion (delete_tells t _ _ _ h))
  | update identity verdict =>
      have hupdate : (Lifecycle.update identity verdict).Staged
          (fun _ q => ∀ place, q ≠ .connect place) t (Quietly t) :=
        update_staged (fun _ => nofun) (fun _ _ => nofun) verdict
      exact (hupdate _ _ _ h).1.follows.forall_query fun _ _ => id

end TopicOperator.Lifecycle
