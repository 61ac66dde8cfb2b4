import CallContracts.Fault

/-!
# Programs

What a function or a promise does when it runs, as a tree: each step says what is done next and how
the run goes on with the answer. The body of a function gives a program for every argument list; the
work of a promise is a program that runs when somebody first awaits the promise. What a function
remembers from one call to the next is saved under a key. Programs only speak of functions and
promises by identity; `Store.run` carries them out.
-/

namespace CallContracts

/-- What running code does, step by step. -/
inductive Program where
  /-- Ends with a value or a fault. -/
  | finish (settlement : Settlement)
  /-- Writes a line to the log. -/
  | write (line : String) (next : Program)
  /-- Calls a function and goes on with what the call came to. -/
  | call (callee : CallableId) (arguments : List Value) (resume : Settlement → Program)
  /-- Awaits a promise and goes on with its settlement. -/
  | await (promise : PromiseId) (resume : Settlement → Program)
  /-- Makes a promise of `work`, which does not run yet. -/
  | defer (work : Program) (resume : PromiseId → Program)
  /-- Makes a function that does `body`. -/
  | create (name : Option String) (body : List Value → Program) (resume : CallableId → Program)
  /-- Goes on with the value that was saved last under `key`, or with `undefined`. -/
  | load (key : String) (resume : Value → Program)
  /-- Saves a value under `key` for what runs later. -/
  | save (key : String) (value : Value) (next : Program)

namespace Program

def tailCall (callee : CallableId) (arguments : List Value) : Program :=
  .call callee arguments .finish

/-- Makes a promise of `work` and ends with it. -/
def promise (work : Program) : Program :=
  .defer work fun promise => .finish (.ok (.promise promise))

/-- Goes on with the resolution of `value`: that of the promise, if the value is one, and the value
itself otherwise. A rejection ends the program. -/
def resolve (value : Value) (resume : Value → Program) : Program :=
  match value with
  | .promise promise => .await promise fun
    | .ok resolution => resume resolution
    | .error fault => .finish (.error fault)
  | value => resume value

end Program

/-- Calls the function that is visible under `key`. -/
def Object.invoke (object : Object) (key : String) (arguments : List Value) : Program :=
  match object.method? key with
  | some callee => Program.tailCall callee arguments
  | none => .finish (.error (.missingMethod key))

end CallContracts
