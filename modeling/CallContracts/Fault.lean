import CallContracts.Issue
import CallContracts.Signature.Parser
import CallContracts.Signature.Printer

/-!
# Faults

Everything that can go wrong, by cause. A fault travels unchanged through wrappers and promises. Its
code groups faults by what the caller was doing; two kinds of fault arise while a contract or a role
is being defined, all others while one is being used.
-/

namespace CallContracts

/-- How an annotation was misused. -/
inductive Misuse where
  /-- A declaration of some shape carried a value that is no function. -/
  | notAFunction (shape : String) (received : ValueKind)
  /-- The descriptor of a member carries no value. -/
  | noDescriptorValue (key : String)
  /-- The context of a member has no place for initializers. -/
  | noInitializerRegistry (name : String)
  /-- An initializer was added to a member that cannot have one. -/
  | initializerRefused (name : String)
  /-- A duck contract names a method twice. -/
  | methodDeclaredTwice (name : String)
  /-- Any other misuse, described in words. -/
  | other (detail : String)

def Misuse.text : Misuse → String
  | .notAFunction shape received => shape ++ " declaration received " ++ received.word
  | .noDescriptorValue key => "descriptor of `" ++ key ++ "` has no function value"
  | .noInitializerRegistry name => "context of `" ++ name ++ "` has no initializer registry"
  | .initializerRefused name => "member `" ++ name ++ "` cannot register initializers"
  | .methodDeclaredTwice name => "method `" ++ name ++ "` is declared more than once"
  | .other detail => detail

/-- Why an operation failed. -/
inductive Fault where
  /-- A text is not a signature. -/
  | malformedSignature (fault : SyntaxFault)
  /-- A function is annotated with a signature of another shape than the contract asks for. -/
  | signatureMismatch (expected actual : Signature)
  /-- An object has no function under a name. -/
  | missingMethod (name : String)
  /-- Arguments or a return value were rejected. -/
  | invalid (failure : ValidationFailure)
  /-- A function failed of its own accord. -/
  | raised (message : String)
  /-- An annotation was misused. -/
  | invalidUsage (misuse : Misuse)
  /-- An object does not have a role attached. -/
  | roleNotImplemented (role : String)
  /-- A required parameter stands behind an optional one. -/
  | parameterOrder (index : Nat)
  /-- The guard of a role accepts a member that is no function. -/
  | unguardedRole (role key : String)

namespace Fault

def message : Fault → String
  | .malformedSignature fault =>
    "Parse error at offset " ++ toString fault.offset ++ " in `" ++ fault.input ++ "`: " ++
      fault.reason
  | .signatureMismatch expected actual =>
    "Function does not match expected quack.\nExpected: " ++ expected.text ++ "\nGot: " ++
      actual.text
  | .missingMethod name => "Method " ++ name ++ " is missing from the object."
  | .invalid failure => failure.text
  | .raised message => message
  | .invalidUsage misuse => "Invalid usage of quackable: " ++ misuse.text
  | .roleNotImplemented role => "Object does not implement required role: " ++ role
  | .parameterOrder index =>
    "Required parameter '" ++ toString index ++ "' cannot follow optional ones"
  | .unguardedRole role key =>
    "Role \"" ++ role ++ "\" must only contain methods. Key \"" ++ key ++ "\" is not a function."

/-- The code of the fault: the first digits group causes by what the caller was doing. -/
def code : Fault → String
  | .malformedSignature _ => "Q001"
  | .signatureMismatch _ _ => "Q010"
  | .missingMethod _ => "Q011"
  | .invalid _ => "Q020"
  | .raised _ => "Q021"
  | .invalidUsage _ => "Q030"
  | .roleNotImplemented _ => "Q040"
  | .parameterOrder _ => "Q050"
  | .unguardedRole _ _ => "Q051"

/-- Whether the fault arises while a contract or a role is being defined. -/
def isConstruction : Fault → Bool
  | .parameterOrder _ | .unguardedRole _ _ => true
  | _ => false

end Fault

/-- What a call or a promise comes to: a value, or the fault it failed with. -/
abbrev Settlement : Type :=
  Except Fault Value

end CallContracts
