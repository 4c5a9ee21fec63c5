import TopicOperator.Json.MergePatch
import TopicOperator.Json.NameOrder
import TopicOperator.Json.Patch
import TopicOperator.Store.Error
import TopicOperator.Topic.Codec

/-!
# API server

The API server as far as the operator meets it: it holds one object, answers patches of it, and keeps
the requests that it received.  An answer may be prepared, in which case the patch is not carried
out; otherwise the server applies the patch and answers with the object.  A status from 400 on is a
refusal, and the operator reads the reason from the body if it can.
-/

namespace TopicOperator

open Json Json.Draft

/-- The body of an answer. -/
inductive Body where
  | value (value : Json)
  | plain (text : String)

namespace Body

/-- The characters of a body. -/
def text : Body → String
  | value v => v.inNameOrder.write
  | plain s => s

/-- Reads a body. -/
def read? {α : Type} (reader : Reader α) : Body → Option α
  | value v => (reader (.ofJson v)).toOption
  | plain s => (readDocument reader s).toOption

end Body

/-- An answer of the API server. -/
structure Response where
  status : Nat
  body : Body

/-- What an answer holds, or why it does not hold it. -/
def Response.read {α : Type} (r : Response) (reader : Reader α) : Except ApiFailure α :=
  if 400 ≤ r.status ∧ r.status < 600 then
    .error (.refused ((r.body.read? ServerStatus.reader).getD (.ofBody r.status r.body.text)))
  else
    match r.body.read? reader with
    | some value => .ok value
    | none => .error (.unreadable ((flawMessage? reader r.body.text).getD ""))

/-- The topic that an answer holds. -/
def Response.topic (r : Response) : Except ApiFailure Topic := r.read Topic.reader

/-- The topics that an answer lists. -/
def Response.topics (r : Response) : Except ApiFailure (List Topic) := r.read Topic.listReader

/-- How a request changes the object. -/
inductive ObjectChange where
  | merge (patch : Json)
  | steps (steps : List PatchStep)

namespace ObjectChange

/-- The body of a request. -/
def body : ObjectChange → Json
  | merge changes => changes
  | steps operations => .list (operations.map PatchStep.toJson)

/-- The type of the body of a request. -/
def contentType : ObjectChange → String
  | merge _ => "application/merge-patch+json"
  | steps _ => "application/json-patch+json"

/-- The object after a change, if it can be made. -/
def result? (object : Json) : ObjectChange → Option Json
  | merge changes => some (mergePatch object changes)
  | steps operations => patch? operations object

end ObjectChange

/-- A request to the API server. -/
inductive Request where
  | list (address : Address)
  | patch (address : Address) (change : ObjectChange)

/-- The API server. -/
structure ApiServer where
  object : Json
  /-- Answers that are prepared for the next patches. -/
  prepared : List (Option Response) := []
  /-- The requests received, in order. -/
  requests : List Request := []

namespace ApiServer

/-- Answers a list request with the object. -/
def list (server : ApiServer) (address : Address) : Except ApiFailure (List Topic) × ApiServer :=
  (Response.topics ⟨200, .value (Topic.listJson [server.object])⟩,
    { server with requests := server.requests ++ [Request.list address] })

/-- Carries out a change of the object and answers with it. -/
def carryOut (server : ApiServer) (change : ObjectChange) : Except ApiFailure Topic × ApiServer :=
  match change.result? server.object with
  | some object => (Response.topic ⟨200, .value object⟩, { server with object := object })
  | none => (.error (.refused .unprocessable), server)

/-- Receives a patch. -/
def patch (server : ApiServer) (address : Address) (change : ObjectChange) :
    Except ApiFailure Topic × ApiServer :=
  let server := { server with requests := server.requests ++ [Request.patch address change] }
  match server.prepared with
  | some response :: rest => (response.topic, { server with prepared := rest })
  | none :: rest => carryOut { server with prepared := rest } change
  | [] => carryOut server change

end ApiServer

end TopicOperator
