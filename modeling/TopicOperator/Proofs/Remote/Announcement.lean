import TopicOperator.Proofs.Remote.ClientCall

/-!
# Announced failures

A failure is announced for the changing call that comes after `n` others.  It is kept as a place in
the log, so it hits the first changing call that finds as many calls in the log as there were when it
was announced, and `n` more.  As long as the log only grows this is the call that it was announced for.
Once the log is emptied in between, the failure spares this call and may hit another one later.
-/

namespace TopicOperator

namespace ClientCall

/-- A call that changes topics and is logged. -/
def changes : ClientCall → Bool
  | mutate _ _ => true
  | _ => false

/-- No failure is announced by any of the calls. -/
def AnnounceNone (cs : List ClientCall) : Prop := ∀ n, .failOnCall n ∉ cs

theorem changes_eq_true_iff {c : ClientCall} :
    c.changes = true ↔ ∃ region m, c = .mutate region m := by
  cases c <;> simp [changes]

theorem AnnounceNone.head {c : ClientCall} {cs : List ClientCall} (h : AnnounceNone (c :: cs))
    (n : Nat) : c ≠ .failOnCall n := by
  rintro rfl
  exact h n List.mem_cons_self

theorem AnnounceNone.tail {c : ClientCall} {cs : List ClientCall} (h : AnnounceNone (c :: cs)) :
    AnnounceNone cs :=
  fun n hmem => h n (List.mem_cons_of_mem c hmem)

end ClientCall

namespace Remote

open ClientCall

/-- The remote service after the calls of clients. -/
def serveAll (remote : Remote) (cs : List ClientCall) : Remote :=
  cs.foldl (fun r c => (r.serve c).2) remote

/-- A changing call fails as it was announced. -/
def Hits (remote : Remote) (region : String) (m : Mutation) : Prop :=
  ∃ operation call,
    (remote.mutate region m).1 = .error (.transport operation (.injected call))

/-- A failure is announced for the changing call that comes after some others. -/
def Announced (remote : Remote) (n : Nat) : Prop :=
  remote.failAt = some (remote.calls.length + n)

/-- As long as a failure is announced, the log is emptied only where it is empty. -/
def KeepsLog : Remote → List ClientCall → Prop
  | _, [] => True
  | remote, c :: rest =>
      (c = .clearCalls → remote.failAt = none ∨ remote.calls = []) ∧
        KeepsLog (remote.serve c).2 rest

variable {remote : Remote} {c : ClientCall} {cs rest before : List ClientCall} {region : String}
  {m : Mutation} {n place : Nat}

/-- A failure hits the call whose place in the log it was announced for. -/
theorem hits_iff : remote.Hits region m ↔ remote.failAt = some remote.calls.length := by
  constructor
  · rintro ⟨operation, call, hanswer⟩
    rcases error_of_mutate hanswer with hmissing | ⟨hannounced, -⟩
    · cases hmissing
    · exact hannounced
  · intro hannounced
    rw [Hits, mutate_of_announced hannounced]
    exact ⟨_, _, rfl⟩

theorem hits_iff_of_announced (h : remote.Announced n) : remote.Hits region m ↔ n = 0 := by
  rw [hits_iff, h, Option.some.injEq]
  omega

theorem not_hits_of_quiet (h : remote.failAt = none) : ¬ remote.Hits region m := by
  rw [hits_iff, h]
  exact nofun

/-- A call that is not a changing one leaves an announced failure where it is in the log. -/
theorem failAt_serve_of_not_changes (hc : c.changes = false) (hplain : ∀ k, c ≠ .failOnCall k)
    (remote : Remote) : (remote.serve c).2.failAt = remote.failAt := by
  cases c with
  | fetchAttributes | fetchTags | contains | calls | clearCalls => rfl
  | driftAttribute | driftTags => exact (remote.drift_kept _ _).2
  | mutate => cases hc
  | failOnCall k => exact absurd rfl (hplain k)

/-- A call that is not a changing one leaves the log as it is, unless it empties it. -/
theorem calls_serve_of_not_changes (hc : c.changes = false) (hclear : c ≠ .clearCalls)
    (remote : Remote) : (remote.serve c).2.calls = remote.calls := by
  cases c with
  | fetchAttributes | fetchTags | contains | calls | failOnCall => rfl
  | driftAttribute | driftTags => exact (remote.drift_kept _ _).1
  | mutate => cases hc
  | clearCalls => exact absurd rfl hclear

/-- What becomes of a failure that was announced for the changing call after `n` others, by one call. -/
inductive Approaches (remote : Remote) (n : Nat) (c : ClientCall) : Prop
  /-- The call is the one that the failure was announced for. -/
  | hit (changes : c.changes = true) (now : n = 0) (spent : (remote.serve c).2.failAt = none)
  /-- The call is one of those that come before. -/
  | nearer (changes : c.changes = true) (k : Nat) (before : n = k + 1)
      (announced : (remote.serve c).2.Announced k)
  /-- The call does not matter to the failure. -/
  | same (changes : c.changes = false) (kept : c = .clearCalls → remote.calls = [])
      (announced : (remote.serve c).2.Announced n)
  /-- The call empties the log, which has to grow to the same length again. -/
  | further (clears : c = .clearCalls) (lost : remote.calls ≠ []) (k : Nat) (later : n < k)
      (announced : (remote.serve c).2.Announced k)

/-- One step towards the call that a failure was announced for, or away from it. -/
theorem approaches (h : remote.Announced n) (hplain : ∀ k, c ≠ .failOnCall k) :
    Approaches remote n c := by
  cases hc : c.changes with
  | true =>
      obtain ⟨region, m, rfl⟩ := changes_eq_true_iff.1 hc
      cases n with
      | zero => exact .hit hc rfl (by rw [serve, mutate_of_announced h])
      | succ k =>
          have hnow : remote.failAt ≠ some remote.calls.length := by
            rw [h, Ne, Option.some.injEq]
            omega
          refine .nearer hc k rfl ?_
          rw [Announced, serve, calls_mutate, mutate_of_not_announced hnow, List.length_append,
            List.length_singleton, Nat.add_assoc, Nat.add_comm 1]
          exact h
  | false =>
      have hfailAt := failAt_serve_of_not_changes hc hplain remote
      by_cases hclear : c = .clearCalls
      · subst hclear
        cases hcalls : remote.calls with
        | nil =>
            refine .same hc (fun _ => hcalls) (hfailAt.trans ?_)
            rw [h, hcalls]
            rfl
        | cons first rest =>
            refine .further rfl (by simp [hcalls]) (remote.calls.length + n) (by simp [hcalls]) ?_
            refine hfailAt.trans (h.trans ?_)
            exact congrArg some (Nat.zero_add _).symm
      · refine .same hc (fun h => absurd h hclear) (hfailAt.trans ?_)
        rw [calls_serve_of_not_changes hc hclear]
        exact h

/-- Where no failure is announced, none is until one of the calls announces one. -/
theorem failAt_serveAll (h : remote.failAt = none) (hplain : AnnounceNone cs) :
    (remote.serveAll cs).failAt = none := by
  induction cs generalizing remote with
  | nil => exact h
  | cons c rest ih =>
      refine ih ?_ hplain.tail
      cases hc : c.changes with
      | true =>
          obtain ⟨region, m, rfl⟩ := changes_eq_true_iff.1 hc
          show (remote.mutate region m).2.failAt = none
          rw [mutate_of_quiet h]
          exact h
      | false =>
          exact (failAt_serve_of_not_changes hc hplain.head remote).trans h

/-- Where a failure is that was announced for the changing call after `n` others, and then some calls
came. -/
inductive Stands (remote : Remote) (n : Nat) (before : List ClientCall) : Prop
  /-- It has hit a call, which was the one that it was announced for or a later one. -/
  | spent (quiet : (remote.serveAll before).failAt = none) (late : n < before.countP changes)
  /-- It is still ahead: as far as it should be if the log was kept, else further. -/
  | ahead (k : Nat) (announced : (remote.serveAll before).Announced k)
      (kept : remote.KeepsLog before → n = before.countP changes + k)
      (lost : ¬ remote.KeepsLog before → n < before.countP changes + k)

/-- A failure that is `steps` calls nearer after a call which keeps the log stands after more calls
where it would stand without that call. -/
theorem Stands.cons {k : Nat} (steps : Nat) (h : Stands (remote.serve c).2 k rest)
    (hn : n = k + steps)
    (hcount : (c :: rest).countP changes = rest.countP changes + steps)
    (hkeeps : c = .clearCalls → remote.failAt = none ∨ remote.calls = []) :
    Stands remote n (c :: rest) := by
  have hiff : remote.KeepsLog (c :: rest) ↔ (remote.serve c).2.KeepsLog rest := and_iff_right hkeeps
  cases h with
  | spent quiet late => exact .spent quiet (by omega)
  | ahead j announced kept lost =>
      refine .ahead j announced (fun hall => ?_) (fun hall => ?_)
      · have hrest := kept (hiff.1 hall)
        omega
      · have hrest := lost (mt hiff.2 hall)
        omega

/-- Step by step a failure comes nearer with each changing call, until it hits one; when the log is
emptied it moves away. -/
theorem stands (h : remote.Announced n) (hplain : AnnounceNone before) :
    Stands remote n before := by
  induction before generalizing remote n with
  | nil => exact .ahead n h (fun _ => by simp) (fun hlost => absurd trivial hlost)
  | cons c rest ih =>
      cases approaches h hplain.head with
      | hit hc now spent =>
          have hquiet : ((remote.serve c).2.serveAll rest).failAt = none :=
            failAt_serveAll spent hplain.tail
          refine .spent hquiet ?_
          rw [List.countP_cons_of_pos hc]
          omega
      | nearer hc k hbefore announced =>
          refine (ih announced hplain.tail).cons 1 hbefore (List.countP_cons_of_pos hc) ?_
          rintro rfl
          cases hc
      | same hc kept announced =>
          have hcount : (c :: rest).countP changes = rest.countP changes :=
            List.countP_cons_of_neg (by simp [hc])
          exact (ih announced hplain.tail).cons 0 rfl hcount fun hclear =>
            .inr (kept hclear)
      | further clears lost k later announced =>
          subst clears
          -- The failure is put off by the calls that were lost, and nothing brings it back in time.
          have hempties : ¬ remote.KeepsLog (.clearCalls :: rest) := by
            rintro ⟨hclear, -⟩
            rcases hclear rfl with hquiet | hempty
            · rw [h] at hquiet
              cases hquiet
            · exact lost hempty
          have hcount : (ClientCall.clearCalls :: rest).countP changes = rest.countP changes :=
            List.countP_cons_of_neg Bool.false_ne_true
          cases ih announced hplain.tail with
          | spent quiet late => exact .spent quiet (by omega)
          | ahead j announced kept lost =>
              refine .ahead j announced (fun hall => absurd hall hempties) fun _ => ?_
              by_cases hrest : (remote.serve .clearCalls).2.KeepsLog rest
              · have hthen := kept hrest
                omega
              · have hthen := lost hrest
                omega

/-- As long as the log is kept, a failure hits the call that it was announced for, and no other. -/
theorem hits_iff_of_keepsLog (h : remote.Announced n) (hplain : AnnounceNone before)
    (hkept : remote.KeepsLog before) :
    (remote.serveAll before).Hits region m ↔ before.countP changes = n := by
  cases stands h hplain with
  | spent quiet late => exact iff_of_false (not_hits_of_quiet quiet) (by omega)
  | ahead k announced kept =>
      rw [hits_iff_of_announced announced, kept hkept]
      omega

/-- The call that a failure was announced for is hit exactly if the log was kept. -/
theorem hits_iff_keepsLog (h : remote.Announced n) (hplain : AnnounceNone before)
    (hcount : before.countP changes = n) :
    (remote.serveAll before).Hits region m ↔ remote.KeepsLog before := by
  refine ⟨fun hhits => ?_, fun hkept => (hits_iff_of_keepsLog h hplain hkept).2 hcount⟩
  by_contra hlost
  cases stands h hplain with
  | spent quiet late => omega
  | ahead k announced kept lost =>
      have hnow := (hits_iff_of_announced announced).1 hhits
      have hlater := lost hlost
      omega

theorem forall_split_cons {α : Type} {P : List α → α → Prop} {first : α} {rest : List α} :
    (∀ earlier x later, first :: rest = earlier ++ x :: later → P earlier x) ↔
      P [] first ∧ ∀ earlier x later, rest = earlier ++ x :: later → P (first :: earlier) x := by
  constructor
  · intro h
    exact ⟨h [] first rest rfl, fun earlier x later hrest => h _ x later (congrArg _ hrest)⟩
  · rintro ⟨hfirst, hrest⟩ (_ | ⟨y, earlier⟩) x later hsplit
    · obtain ⟨rfl, -⟩ := List.cons.inj hsplit
      exact hfirst
    · obtain ⟨rfl, hthen⟩ := List.cons.inj hsplit
      exact hrest earlier x later hthen

/-- A failure hits the first changing call that finds as many calls in the log as its place says. -/
theorem hits_iff_first (h : remote.failAt = some place) (hplain : AnnounceNone before) :
    (remote.serveAll before).Hits region m ↔
      (remote.serveAll before).calls.length = place ∧
        ∀ earlier c later, before = earlier ++ c :: later → c.changes = true →
          (remote.serveAll earlier).calls.length ≠ place := by
  induction before generalizing remote with
  | nil =>
      rw [serveAll, List.foldl_nil, hits_iff, h, Option.some.injEq]
      refine ⟨fun hplace => ⟨hplace.symm, ?_⟩, fun hplace => hplace.1.symm⟩
      intro earlier c later hsplit
      cases earlier <;> cases hsplit
  | cons c rest ih =>
      rw [serveAll, List.foldl_cons, forall_split_cons]
      -- Either this call is hit and no later one, or it leaves the failure to the calls that follow.
      by_cases hnow : c.changes = true ∧ remote.calls.length = place
      · obtain ⟨hc, hplace⟩ := hnow
        obtain ⟨region, m, rfl⟩ := changes_eq_true_iff.1 hc
        have hspent : (remote.mutate region m).2.failAt = none := by
          rw [mutate_of_announced (hplace ▸ h)]
        refine iff_of_false (not_hits_of_quiet (failAt_serveAll hspent hplain.tail)) ?_
        rintro ⟨-, hfirst, -⟩
        exact hfirst hc hplace
      · have hpending : (remote.serve c).2.failAt = some place := by
          cases hc : c.changes with
          | true =>
              obtain ⟨region, m, rfl⟩ := changes_eq_true_iff.1 hc
              rw [serve, mutate_of_not_announced]
              · exact h
              · rw [h, Ne, Option.some.injEq]
                exact fun hplace => hnow ⟨hc, hplace.symm⟩
          | false => exact (failAt_serve_of_not_changes hc hplain.head remote).trans h
        refine (ih hpending hplain.tail).trans (and_congr_right fun _ => ?_)
        exact ⟨fun hrest => ⟨fun hc hplace => hnow ⟨hc, hplace⟩, hrest⟩, And.right⟩

/-- A failure that is announced for the changing call after `n` others is an absolute place in the log:
it hits the first changing call that finds the log grown to this place, and no other one.  This is the
call that it was announced for exactly if the log was not emptied before that call. -/
theorem announced_failure_hits_place (remote : Remote) (n : Nat) (hplain : AnnounceNone before)
    (region : String) (m : Mutation) :
    let start := remote.failOnCall n
    let reached := start.serveAll before
    (reached.Hits region m ↔ reached.calls.length = remote.calls.length + n ∧
      ∀ earlier c later, before = earlier ++ c :: later → c.changes = true →
        (start.serveAll earlier).calls.length ≠ remote.calls.length + n) ∧
    (start.KeepsLog before → (reached.Hits region m ↔ before.countP changes = n)) ∧
    (before.countP changes = n → (reached.Hits region m ↔ start.KeepsLog before)) ∧
    (reached.Hits region m → (reached.mutate region m).1 =
      .error (.transport m.operation.name (.injected (remote.calls.length + n)))) := by
  intro start reached
  have hannounced : start.Announced n := rfl
  have hplace : reached.Hits region m ↔ _ := hits_iff_first hannounced hplain
  refine ⟨hplace, hits_iff_of_keepsLog hannounced hplain, hits_iff_keepsLog hannounced hplain,
    fun hhits => ?_⟩
  rw [mutate_of_announced (hits_iff.1 hhits), (hplace.1 hhits).1]
  rfl

/-- The call after another one in a second region and a drift, where the log had a call before. -/
theorem announced_failure_hits_place_across_regions :
    let remote : Remote := ({} : Remote).mutate "us-east-1" (.create "orders" .empty []) |>.2
    let before : List ClientCall := [.mutate "eu-west-1" (.create "orders" .empty []),
      .driftAttribute "arn:aws:sns:us-east-1:000000000000:orders" "DisplayName" "Orders"]
    AnnounceNone before ∧ (remote.failOnCall 1).KeepsLog before ∧ before.countP changes = 1 ∧
      ((remote.failOnCall 1).serveAll before).Hits "us-east-1" (.delete "arn:orders") := by
  intro remote before
  have hplain : AnnounceNone before := by simp [AnnounceNone, before]
  have hkept : (remote.failOnCall 1).KeepsLog before := ⟨nofun, nofun, trivial⟩
  have hwhere := announced_failure_hits_place remote 1 hplain "us-east-1" (.delete "arn:orders")
  exact ⟨hplain, hkept, rfl, (hwhere.2.1 hkept).2 rfl⟩

/-- The log has a call in it when a failure is announced for the next one, and is emptied before it: the
failure spares the call that it was announced for and hits the one after it. -/
theorem announced_failure_spares_call :
    ¬ ∀ (remote : Remote) (n : Nat) (before : List ClientCall) (region : String) (m : Mutation),
      AnnounceNone before →
        (((remote.failOnCall n).serveAll before).Hits region m ↔ before.countP changes = n) := by
  intro h
  have hspared := (h { calls := [.delete "arn:orders"] } 0 [.clearCalls] "us-east-1"
    (.delete "arn:orders") (by simp [AnnounceNone])).2 rfl
  exact absurd (hits_iff.1 hspared) (by decide)

end Remote

end TopicOperator
