import CallContracts.Program

/-!
# The store

What stands behind identities: the functions with their annotations, the promises with their
settlements, and how many roles there are. Identities are handed out in order and never twice. The
store also keeps what programs saved, and a trace of every call, of every promise that started to
run and of every line that was written.
-/

namespace CallContracts

/-- A function: its name for diagnostics, what it does, and the signature it is annotated with. -/
structure Callable where
  name : Option String
  body : List Value → Program
  declared : Option Signature

/-- A promise that nobody has awaited yet, or the settlement that every holder sees. -/
inductive Deferred where
  | pending (work : Program)
  | settled (settlement : Settlement)

/-- Something that happened while programs ran. -/
inductive Event where
  /-- A function was called. -/
  | called (callee : CallableId) (arguments : List Value)
  /-- The work of a promise started. -/
  | started (promise : PromiseId)
  /-- A line was written. -/
  | wrote (line : String)

/-- What stands behind identities, what programs saved, and what happened so far, in order. -/
structure Store where
  callables : Array Callable
  promises : Array Deferred
  roleCount : Nat
  memory : Members Value
  trace : Array Event

namespace Store

/-- The store in which nothing has been made. -/
def empty : Store :=
  ⟨#[], #[], 0, [], #[]⟩

/-- The function behind an identity. An identity that was never handed out stands for a nameless
function that returns `undefined`. -/
def callable (store : Store) (id : CallableId) : Callable :=
  store.callables[id.index]?.getD ⟨none, fun _ => .finish (.ok .undefined), none⟩

/-- The promise behind an identity. An identity that was never handed out stands for a promise that
resolved to `undefined`. -/
def deferred (store : Store) (id : PromiseId) : Deferred :=
  store.promises[id.index]?.getD (.settled (.ok .undefined))

/-- The settlement of a promise, if somebody has driven it to one. -/
def settlement? (store : Store) (id : PromiseId) : Option Settlement :=
  match store.deferred id with
  | .pending _ => none
  | .settled settlement => some settlement

def record (store : Store) (event : Event) : Store :=
  { store with trace := store.trace.push event }

/-- Makes a function under a new identity, without annotation. -/
def newCallable (store : Store) (name : Option String) (body : List Value → Program) :
    CallableId × Store :=
  (⟨store.callables.size⟩, { store with callables := store.callables.push ⟨name, body, none⟩ })

/-- Makes a function that does the same as another under a new identity, without annotation. -/
def rebind (store : Store) (id : CallableId) : CallableId × Store :=
  store.newCallable (store.callable id).name (store.callable id).body

def newPromise (store : Store) (work : Program) : PromiseId × Store :=
  (⟨store.promises.size⟩, { store with promises := store.promises.push (.pending work) })

def settlePromise (store : Store) (id : PromiseId) (settlement : Settlement) : Store :=
  { store with promises := store.promises.setIfInBounds id.index (.settled settlement) }

/-- The value that was saved last under `key`, or `undefined`. -/
def load (store : Store) (key : String) : Value :=
  (store.memory.find? key).getD .undefined

/-- Saves a value under `key`. -/
def save (store : Store) (key : String) (value : Value) : Store :=
  { store with memory := store.memory.insert key value }

def declared? (store : Store) (id : CallableId) : Option Signature :=
  (store.callable id).declared

/-- Annotates a function, in place of any earlier annotation. -/
def annotate (store : Store) (id : CallableId) (signature : Signature) : Store :=
  { store with
    callables := store.callables.modify id.index fun callable =>
      { callable with declared := some signature } }

/-- The lines that were written, in order. -/
def lines (store : Store) : List String :=
  store.trace.toList.filterMap fun
    | .wrote line => some line
    | _ => none

end Store

end CallContracts
