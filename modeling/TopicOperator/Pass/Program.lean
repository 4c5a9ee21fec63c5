import TopicOperator.Json.Patch
import TopicOperator.Log
import TopicOperator.Pass.Error
import TopicOperator.Remote.Mutation
import TopicOperator.Store.Write

/-!
# Programs of a pass

A pass is a program that asks its surroundings one question after the other and goes on with the
answers.  The questions are the only way to reach the clock, the remote service, the store and the
log, so what a pass does is the list of its questions, and several passes can be interleaved between
them.
-/

namespace TopicOperator

/-- What keeps the answer of a call from a pass. -/
inductive Interruption where
  | cancelled
  | timedOut (limit : Duration)
deriving DecidableEq, Repr

/-- The answer of a call: nothing if the call was interrupted, else that of the remote service. -/
abbrev Called (α : Type) := Except Interruption (Except RemoteError α)

/-- What a pass may ask. -/
inductive Query where
  /-- Reads the clock. -/
  | now
  /-- Reads the attributes of a remote topic. -/
  | fetchAttributes (identity : String)
  /-- Reads the tags of a remote topic. -/
  | fetchTags (identity : String)
  /-- Makes a changing call. -/
  | mutate (mutation : Mutation)
  /-- Writes something back about a topic. -/
  | write (topic : Topic) (write : StoreWrite)
  /-- Logs an event. -/
  | log (event : Event)
  /-- Connects to the remote service in a region. -/
  | connect (region : String)
  /-- Patches the finalizers of an object. -/
  | patchFinalizers (space name : String) (steps : List Json.PatchStep)

/-- The answers to a query. -/
def Query.Answer : Query → Type
  | now => Instant
  | fetchAttributes _ => Called ObservedAttributes
  | fetchTags _ => Called (List Tag)
  | mutate _ => Called String
  | write _ _ => Except StoreError Unit
  | log _ => Unit
  | connect _ => Except RemoteError Unit
  | patchFinalizers _ _ _ => Except ApiFailure Unit

/-- A program that asks queries and ends with a result. -/
inductive Program (α : Type) where
  | done (result : α)
  | ask (query : Query) (next : query.Answer → Program α)

namespace Program

variable {α β γ : Type}

/-- One program after the other. -/
def bind (program : Program α) (next : α → Program β) : Program β :=
  match program with
  | done result => next result
  | ask query rest => ask query fun answer => (rest answer).bind next

instance : Monad Program where
  pure := done
  bind := bind

@[simp] theorem bind_done (result : α) (next : α → Program β) :
    (done result).bind next = next result := rfl

theorem bind_pure (program : Program α) : program.bind done = program := by
  induction program with
  | done result => rfl
  | ask query rest ih => simp only [bind, ih]

theorem bind_assoc (program : Program α) (first : α → Program β) (second : β → Program γ) :
    (program.bind first).bind second = program.bind fun a => (first a).bind second := by
  induction program with
  | done result => rfl
  | ask query rest ih => simp only [bind, ih]

instance : LawfulMonad Program :=
  LawfulMonad.mk' Program (fun program => bind_pure program) (fun _ _ => rfl)
    fun program first second => bind_assoc program first second

/-- The program that asks one query. -/
def query (q : Query) : Program q.Answer := ask q done

end Program

end TopicOperator
