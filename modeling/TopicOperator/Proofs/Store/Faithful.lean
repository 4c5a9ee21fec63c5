import TopicOperator.Proofs.Store.Patched
import TopicOperator.Store.Basic

/-!
# Faithful servers

A server that carries out a patch exactly when it answers with success.  A write that fails then leaves
the stored object as it was, and a write whose outcome can be read succeeds if it is carried out.
-/

namespace TopicOperator

open Json Json.Draft

/-- Whatever answer is prepared in place of carrying out a patch is a failure. -/
def ApiServer.IsFaithful (api : ApiServer) : Prop :=
  ∀ response, some response ∈ api.prepared → ∃ e, response.topic = .error e

/-- An answer with an object that holds a topic is read as the topic. -/
theorem Response.topic_of_storedIn {topic : Topic} {object : Json} (h : topic.StoredIn object) :
    Response.topic ⟨200, .value object⟩ = .ok topic := by
  have hbody : Body.read? Topic.reader (.value object) = some topic := h.ofJson?
  have hstatus : ¬ (400 ≤ 200 ∧ 200 < 600) := by decide
  rw [Response.topic, Response.read, if_neg hstatus, hbody]

namespace ApiServer

variable {api : ApiServer}

/-- A faithful server either refuses a patch or carries it out and answers with the object. -/
theorem IsFaithful.patch (h : api.IsFaithful) (address : Address) (changes : Json) :
    ∃ api', api'.IsFaithful ∧
      ((∃ e, api.patch address (.merge changes) = (.error e, api')) ∧ api'.object = api.object ∨
        api.patch address (.merge changes) =
            (Response.topic ⟨200, .value (mergePatch api.object changes)⟩, api') ∧
          api'.object = mergePatch api.object changes) := by
  let requests := api.requests ++ [Request.patch address (.merge changes)]
  cases hprepared : api.prepared with
  | nil =>
      refine ⟨⟨mergePatch api.object changes, api.prepared, requests⟩, h, .inr ⟨?_, rfl⟩⟩
      simp only [ApiServer.patch, hprepared]
      rfl
  | cons first rest =>
      have hrest : ∀ response, some response ∈ rest → ∃ e, response.topic = .error e := by
        intro response hresponse
        apply h
        rw [hprepared]
        exact List.mem_cons_of_mem _ hresponse
      cases first with
      | some response =>
          obtain ⟨e, he⟩ : ∃ e, response.topic = .error e := by
            apply h
            rw [hprepared]
            exact List.mem_cons_self
          refine ⟨⟨api.object, rest, requests⟩, hrest, .inl ⟨⟨e, ?_⟩, rfl⟩⟩
          simp only [ApiServer.patch, hprepared, he]
          rfl
      | none =>
          refine ⟨⟨mergePatch api.object changes, rest, requests⟩, hrest, .inr ⟨?_, rfl⟩⟩
          simp only [ApiServer.patch, hprepared]
          rfl

end ApiServer

namespace Store

/-- The stored object, if there is a server that holds one. -/
def object? : Store → Option Json
  | recording _ => none
  | server _ api => some api.object

/-- Whether the store is a server that carries out patches exactly when it answers with success. -/
def IsFaithful : Store → Prop
  | recording _ => False
  | server _ api => api.IsFaithful

/-- A faithful server that holds an object. -/
structure Holds (store : Store) (object : Json) : Prop where
  faithful : store.IsFaithful
  object : store.object? = some object

/-- A write that is not carried out is answered with an error, and one that is carried out with success
if what it leaves can be read. -/
theorem Holds.write {store : Store} {object : Json} (h : store.Holds object) (topic : Topic)
    (w : StoreWrite) :
    (∃ e, (store.write topic w).1 = .error e) ∧ (store.write topic w).2.Holds object ∨
      (store.write topic w).2.Holds (mergePatch object w.patch) ∧
        ∀ after, Response.topic ⟨200, .value (mergePatch object w.patch)⟩ = .ok after →
          (store.write topic w).1 = .ok () := by
  obtain ⟨hfaithful, hobject⟩ := h
  cases store with
  | recording writes => cases hobject
  | server manager api =>
      obtain rfl := Option.some.inj hobject
      cases hspace : topic.metadata.namespaceName with
      | none =>
          -- There is no address to send the patch to.
          simp only [Store.write, hspace]
          exact .inl ⟨⟨_, rfl⟩, hfaithful, rfl⟩
      | some space =>
          simp only [Store.write, hspace, patchPart]
          cases patchAddress space topic.anyName w.subresource (some manager) with
          | error flaw => exact .inl ⟨⟨_, rfl⟩, hfaithful, rfl⟩
          | ok address =>
              obtain ⟨api', hstill, ⟨⟨e, he⟩, hsame⟩ | ⟨hanswer, hdone⟩⟩ :=
                hfaithful.patch address w.patch
              · dsimp only
                rw [he]
                exact .inl ⟨⟨_, rfl⟩, hstill, congrArg some hsame⟩
              · dsimp only
                rw [hanswer]
                refine .inr ⟨⟨hstill, congrArg some hdone⟩, fun after hafter => ?_⟩
                rw [hafter]

/-- A write that leaves an object which holds a topic succeeds exactly if it is carried out. -/
theorem Holds.write_storedIn {store : Store} {object : Json} (h : store.Holds object) (topic : Topic)
    (w : StoreWrite) {after : Topic} (hread : after.StoredIn (mergePatch object w.patch)) :
    (∃ e, (store.write topic w).1 = .error e) ∧ (store.write topic w).2.Holds object ∨
      (store.write topic w).1 = .ok () ∧
        (store.write topic w).2.Holds (mergePatch object w.patch) := by
  refine (h.write topic w).imp_right fun ⟨hdone, hok⟩ => ⟨?_, hdone⟩
  exact hok after (Response.topic_of_storedIn hread)

end Store

end TopicOperator
