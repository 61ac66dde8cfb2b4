import CallContracts.Annotation
import CallContracts.Schema.Function
import CallContracts.Signature.Compatibility

/-!
# Contracts

A contract asks one function for a signature, a duck contract asks an object for a set of methods. A
function without annotation is put under guard. An annotated one is taken at its word if its
annotation has the shape that is asked for, unless the contract is strict and guards it all the
same; an annotation of another shape breaks the contract.
-/

namespace CallContracts

/-- What is asked of a function. -/
structure Contract where
  schema : FunctionSchema
  /-- Whether functions with a compatible annotation are guarded too. -/
  strict : Bool

namespace Contract

/-- The contract that asks for a signature, whose parameters must be in order. -/
def ofSignature (expected : Signature) (strict : Bool) : Except Fault Contract := do
  let schema ← FunctionSchema.compile expected
  return ⟨schema, strict⟩

/-- The contract that asks for the signature a text spells. -/
def ofText (text : String) (strict : Bool) : Except Fault Contract :=
  match Signature.parse text with
  | .ok expected => ofSignature expected strict
  | .error fault => .error (.malformedSignature fault)

def expected (contract : Contract) : Signature :=
  contract.schema.signature

/-- The function under the contract: the candidate itself, or a guard over it. -/
def apply (contract : Contract) (candidate : CallableId) (store : Store) :
    Except Fault (CallableId × Store) :=
  match store.declared? candidate with
  | none => .ok (contract.schema.implement candidate store)
  | some actual =>
    if actual.compatible contract.expected then
      if contract.strict then .ok (contract.schema.implement candidate store)
      else .ok (candidate, store)
    else .error (.signatureMismatch contract.expected actual)

end Contract

/-- What is asked of the methods of an object, in order. -/
structure DuckContract where
  methods : List (String × Contract)

namespace DuckContract

/-- Adds declarations behind those of `declared`, up to the first one at fault: a name that occurs
before, a text that is no signature, or a parameter out of order. -/
def declareAll (strict : Bool) (declared : List (String × Contract)) :
    List (String × String) → Except Fault (List (String × Contract))
  | [] => .ok declared
  | (name, text) :: declarations =>
    if declared.any fun (other, _) => other = name then
      .error (.invalidUsage (.methodDeclaredTwice name))
    else
      match Contract.ofText text strict with
      | .error fault => .error fault
      | .ok contract => declareAll strict (declared ++ [(name, contract)]) declarations

/-- The contract that asks for methods with these names and signatures. -/
def ofTexts (declarations : List (String × String)) (strict : Bool) : Except Fault DuckContract :=
  (declareAll strict [] declarations).map DuckContract.mk

/-- The names of the methods in the order of their declaration. -/
def methodNames (contract : DuckContract) : List String :=
  contract.methods.map Prod.fst

/-- Puts each method of `candidate` under its contract and into `layer`. -/
def applyAll (candidate : Object) : List (String × Contract) → (layer : Object) → Store →
    Except Fault (Object × Store)
  | [], layer, store => .ok (layer, store)
  | (name, contract) :: methods, layer, store =>
    match candidate.method? name with
    | none => .error (.missingMethod name)
    | some method =>
      match contract.apply method store with
      | .error fault => .error fault
      | .ok (checked, store) =>
        applyAll candidate methods (layer.insert name (.function checked)) store

/-- A layer over `candidate` with each declared method under its contract. Where a method is missing
or mismatched there is no layer at all. -/
def apply (contract : DuckContract) (candidate : Object) (store : Store) :
    Except Fault (Object × Store) :=
  applyAll candidate contract.methods (Object.layeredOver candidate) store

end DuckContract

end CallContracts
