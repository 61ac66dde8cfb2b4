import CallContracts.Store

/-!
# Annotations

A signature is attached to the identity of a function. Handles to one function see one annotation; a
function made from another one starts without. Declarations reach an annotator in three shapes, and
each ends in attaching the signature to the function it carries.
-/

namespace CallContracts

/-- What a decorated member is. -/
inductive MemberKind where
  | method
  | getter
  | setter
  | field
  deriving DecidableEq

def MemberKind.word : MemberKind → String
  | .method => "method"
  | .getter => "getter"
  | .setter => "setter"
  | .field => "field"

def MemberKind.ofWord? (word : String) : Option MemberKind :=
  [method, getter, setter, field].find? fun kind => kind.word = word

/-- Where the initializers of a decorated member are registered, in order. -/
structure DecoratorContext where
  kind : MemberKind
  name : String
  /-- The registered initializers; `none` if the member cannot have any. -/
  initializers : Option (List CallableId)

namespace DecoratorContext

/-- The context of a method that can register initializers. -/
def method (name : String) : DecoratorContext :=
  ⟨.method, name, some []⟩

/-- The context of a member that cannot register initializers. -/
def withoutInitializers (kind : MemberKind) (name : String) : DecoratorContext :=
  ⟨kind, name, none⟩

def addInitializer (context : DecoratorContext) (initializer : CallableId) :
    Except Fault DecoratorContext :=
  match context.initializers with
  | some initializers => .ok { context with initializers := some (initializers ++ [initializer]) }
  | none => .error (.invalidUsage (.initializerRefused context.name))

end DecoratorContext

/-- Calls functions in order without arguments, up to the first one that fails. -/
def Program.callEach : List CallableId → Program
  | [] => .finish (.ok .undefined)
  | callee :: callees => .call callee [] fun
    | .ok _ => callEach callees
    | .error fault => .finish (.error fault)

/-- How an annotation is applied. -/
inductive Declaration where
  /-- A value that is to be annotated directly. -/
  | function (value : Value)
  /-- A method declared by the descriptor of a property, which has no value for an accessor. -/
  | legacyMethod (key : String) (descriptor : Option Value)
  /-- A method declared with a context for its initializers. -/
  | method (value : Value) (context : DecoratorContext)

namespace Declaration

def functionValue (shape : String) (value : Value) : Except Fault CallableId :=
  match value with
  | .function callable => .ok callable
  | value => .error (.invalidUsage (.notAFunction shape value.kind))

def callable : Declaration → Except Fault CallableId
  | .function value => functionValue "function" value
  | .legacyMethod _ (some value) => functionValue "legacy method" value
  | .legacyMethod key none => .error (.invalidUsage (.noDescriptorValue key))
  | .method value context =>
    if context.initializers.isNone then
      .error (.invalidUsage (.noInitializerRegistry context.name))
    else functionValue "method" value

end Declaration

/-- Attaches one signature to functions. -/
structure Annotator where
  signature : Signature

namespace Annotator

/-- The annotator for the signature that a text spells. -/
def ofText (text : String) : Except Fault Annotator :=
  match Signature.parse text with
  | .ok signature => .ok ⟨signature⟩
  | .error fault => .error (.malformedSignature fault)

def text (annotator : Annotator) : String :=
  "quackable(" ++ annotator.signature.text ++ ")"

def annotate (annotator : Annotator) (callable : CallableId) (store : Store) : Store :=
  store.annotate callable annotator.signature

/-- Annotates the function that a declaration carries and returns it. -/
def declare (annotator : Annotator) (declaration : Declaration) (store : Store) :
    Except Fault (CallableId × Store) :=
  match declaration.callable with
  | .ok callable => .ok (callable, annotator.annotate callable store)
  | .error fault => .error fault

end Annotator

end CallContracts
