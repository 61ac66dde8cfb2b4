import CallContracts.Schema.Parameters
import CallContracts.Store

/-!
# Guarded functions

A signature compiles to a schema that can stand guard over any function. A synchronous guard checks
the arguments, calls the function and checks what it returns, and fails where one of these fails. An
asynchronous guard always returns a promise: it checks the arguments and calls the function at once,
while every failure becomes a rejection and the returned value is checked when the promise is
awaited.
-/

namespace CallContracts

/-- What a signature asks for. -/
structure FunctionSchema where
  signature : Signature
  parameters : ParameterSchema
  returns : Schema

namespace FunctionSchema

/-- What a signature asks for; its parameters must be in order. -/
def compile (signature : Signature) : Except Fault FunctionSchema := do
  let parameters ← ParameterSchema.compile signature.parameters
  return ⟨signature, parameters, signature.returns.schema⟩

/-- Whether functions of this signature deliver their result asynchronously. -/
def isAsync (schema : FunctionSchema) : Bool :=
  schema.signature.isAsync

/-- Ends with a returned value as it is passed on, or with its issues. -/
def checkReturn (schema : FunctionSchema) (value : Value) : Program :=
  schema.returns.check value .result

/-- A call of `target` under guard, in which every failure is a failure of the call. -/
def guardCall (schema : FunctionSchema) (target : CallableId) (arguments : List Value) : Program :=
  schema.parameters.checkThen arguments
    (fun arguments => .call target arguments fun
      | .ok returned => schema.checkReturn returned
      | .error fault => .finish (.error fault))
    (fun failure => .finish (.error (.invalid failure)))

/-- A call of `target` under guard, which ends with a promise whatever happens. -/
def guardAsyncCall (schema : FunctionSchema) (target : CallableId) (arguments : List Value) :
    Program :=
  schema.parameters.checkThen arguments
    (fun arguments => .call target arguments fun
      | .ok returned => Program.promise (Program.resolve returned schema.checkReturn)
      | .error fault => Program.promise (.finish (.error fault)))
    (fun failure => Program.promise (.finish (.error (.invalid failure))))

/-- What a guard over `target` does. -/
def guardBody (schema : FunctionSchema) (target : CallableId) : List Value → Program :=
  if schema.isAsync then schema.guardAsyncCall target else schema.guardCall target

/-- Makes a guard over `target`: a new function that bears its name. -/
def implement (schema : FunctionSchema) (target : CallableId) (store : Store) :
    CallableId × Store :=
  store.newCallable (store.callable target).name (schema.guardBody target)

end FunctionSchema

end CallContracts
