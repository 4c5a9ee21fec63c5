import TopicOperator.Store.ApiServer
import TopicOperator.Store.Write
import TopicOperator.Text.FormEncoded

/-!
# Stores

Where a pass writes back what it learned: a list of writes that always succeeds, or the API server.
The API server is addressed by the namespace and the name of the object, and refuses to be
addressed without them.
-/

namespace TopicOperator

/-- Where topics are written back. -/
inductive Store where
  /-- Only records what was written, in order. -/
  | recording (writes : List StoreWrite)
  /-- Patches the object at an API server, in the name of a field manager. -/
  | server (manager : String) (api : ApiServer)

namespace Store

/-- How many bytes the name of a field manager may have. -/
def managerLimit : Nat := 128

/-- The query of a patch, which may be in the name of a field manager. -/
def managerQuery : Option String → String
  | none => ""
  | some manager => "&fieldManager=" ++ Text.formEncode manager

/-- Why a patch of an object in the name of a field manager is not even addressed. -/
def patchFlaw? (name : String) (manager : Option String) : Option RequestFlaw :=
  if name.isEmpty then some .namelessObject
  else if managerLimit < (manager.getD "").utf8ByteSize then some .longFieldManager
  else none

/-- The address of a patch of some part of an object. -/
def patchAddress (space name part : String) (manager : Option String) :
    Except RequestFlaw Address :=
  match patchFlaw? name manager with
  | some flaw => .error flaw
  | none =>
      (Address.ofTarget (Topic.path space name ++ part ++ "?" ++ managerQuery manager)).mapError
        .malformedAddress

/-- Patches some part of an object at the API server. -/
def patchPart (api : ApiServer) (space name part : String) (manager : Option String)
    (change : ObjectChange) : Except ApiFailure Topic × ApiServer :=
  match patchAddress space name part manager with
  | .error flaw => (.error (.unbuildable flaw), api)
  | .ok address => api.patch address change

/-- Writes something back about a topic. -/
def write (topic : Topic) (w : StoreWrite) : Store → Except StoreError Unit × Store
  | recording writes => (.ok (), recording (writes ++ [w]))
  | server manager api =>
      match topic.metadata.namespaceName with
      | none => (.error .noNamespace, server manager api)
      | some space =>
          let (answer, api) :=
            patchPart api space topic.anyName w.subresource (some manager) (.merge w.patch)
          (match answer with
            | .ok _ => .ok ()
            | .error cause => .error (w.failure topic.anyName cause),
          server manager api)

/-- Patches the finalizers of an object. -/
def patchFinalizers (space name : String) (steps : List Json.PatchStep) :
    Store → Except ApiFailure Unit × Store
  | recording writes => (.ok (), recording writes)
  | server manager api =>
      let (answer, api) := patchPart api space name "" none (.steps steps)
      (answer.map fun _ => (), server manager api)

/-- Lists the topics at some path, of which a recording store has none. -/
def list (path : String) : Store → Except ApiFailure (List Topic) × Store
  | recording writes => (.ok [], recording writes)
  | server manager api =>
      match Address.ofTarget (path ++ "?") with
      | .error flaw => (.error (.unbuildable (.malformedAddress flaw)), server manager api)
      | .ok address =>
          let (topics, api) := api.list address
          (topics, server manager api)

/-- The writes recorded so far. -/
def writes : Store → List StoreWrite
  | recording writes => writes
  | server _ _ => []

/-- The last status recorded. -/
def lastStatus (store : Store) : Option Status :=
  store.writes.reverse.findSome? fun
    | .status s => some s
    | _ => none

/-- Forgets the writes recorded so far. -/
def clear : Store → Store
  | recording _ => recording []
  | server manager api => server manager api

end Store

end TopicOperator
