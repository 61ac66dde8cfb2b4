import CallContracts.Signature.Basic
import CallContracts.Signature.Token

/-!
# Reading signatures

A reader takes a list of tokens and either returns a value with the tokens behind it, or the tokens
at which it got stuck. Lists, marks and suffixes are optional: where their next part cannot be read
they end in front of it, and what was read of that part is given back. A type is tried as a keyword,
a tuple, a `Promise<…>`, an `Array<…>` and last as a signature, so the place where a type gets stuck
is the place where a signature would.

Types contain types. The readers of this file therefore take the reader of the nested types as an
argument, and `Reader.type` ties the knot by a depth that no text exceeds: a nested type is always
read behind at least one token of the type around it.

`Signature.parse` reports the place of the first token that could not be used.
-/

namespace CallContracts

/-- A reader returns a value and the remaining tokens, or the tokens at which it got stuck. -/
abbrev Reader (α : Type) : Type :=
  List Token → Except (List Token) (α × List Token)

namespace Reader

/-- Exactly the token `expected`. -/
def exactly (expected : Token) : Reader Unit
  | [] => .error []
  | token :: rest => if token = expected then .ok ((), rest) else .error (token :: rest)

/-- Whether the token `mark` comes next; it is consumed if it does. -/
def marked (mark : Token) : List Token → Bool × List Token
  | [] => (false, [])
  | token :: rest => if token = mark then (true, rest) else (false, token :: rest)

/-- Items behind a first one, each after a comma. The list ends in front of a comma that no item
follows. -/
def moreItems {α : Type} (item : Reader α) : (bound : Nat) → List Token → List α × List Token
  | 0, tokens => ([], tokens)
  | bound + 1, .comma :: rest =>
    match item rest with
    | .error _ => ([], .comma :: rest)
    | .ok (value, rest) =>
      let (values, rest) := moreItems item bound rest
      (value :: values, rest)
  | _ + 1, tokens => ([], tokens)

def items {α : Type} (item : Reader α) (tokens : List Token) : List α × List Token :=
  match item tokens with
  | .error _ => ([], tokens)
  | .ok (value, rest) =>
    let (values, rest) := moreItems item rest.length rest
    (value :: values, rest)

/-- Items with commas between them, enclosed in `opening` and `closing`. -/
def enclosed {α : Type} (opening closing : Token) (item : Reader α) : Reader (List α) :=
    fun tokens => do
  let ((), rest) ← exactly opening tokens
  let (values, rest) := items item rest
  let ((), rest) ← exactly closing rest
  return (values, rest)

/-- A parameter with a name: the name, `?` if it is optional, a colon and the type. -/
def namedParameter (type : Reader TypeExpr) : Reader Parameter
  | .word name :: rest => do
    let (optional, rest) := marked .question rest
    let ((), rest) ← exactly .colon rest
    let (type, rest) ← type rest
    return (⟨some name, optional, type⟩, rest)
  | tokens => .error tokens

/-- A parameter without a name: the type, and `?` if it is optional. -/
def bareParameter (type : Reader TypeExpr) : Reader Parameter := fun tokens => do
  let (type, rest) ← type tokens
  let (optional, rest) := marked .question rest
  return (⟨none, optional, type⟩, rest)

/-- A parameter. Where both forms could be read, the word in front is a name. -/
def parameter (type : Reader TypeExpr) : Reader Parameter := fun tokens =>
  match namedParameter type tokens with
  | .ok result => .ok result
  | .error _ => bareParameter type tokens

/-- A signature: `async` if it is asynchronous, the parameters, the arrow and the return type. -/
def signature (type : Reader TypeExpr) : Reader Signature := fun tokens => do
  let (isAsync, rest) := marked (.word "async") tokens
  let (parameters, rest) ← enclosed .openParen .closeParen (parameter type) rest
  let ((), rest) ← exactly .arrow rest
  let (returns, rest) ← type rest
  return (⟨isAsync, parameters, returns⟩, rest)

/-- The word `name` and a type in angle brackets. -/
def applied (name : String) (type : Reader TypeExpr) : Reader TypeExpr := fun tokens => do
  let ((), rest) ← exactly (.word name) tokens
  let ((), rest) ← exactly .openAngle rest
  let (argument, rest) ← type rest
  let ((), rest) ← exactly .closeAngle rest
  return (argument, rest)

def primitive : Reader Primitive
  | .word name :: rest =>
    match Primitive.ofKeyword? name with
    | some primitive => .ok (primitive, rest)
    | none => .error (.word name :: rest)
  | tokens => .error tokens

/-- A type without array suffixes, or a signature. -/
def primary (type : Reader TypeExpr) : Reader TypeExpr := fun tokens =>
  match primitive tokens with
  | .ok (kind, rest) => .ok (.primitive kind, rest)
  | .error _ =>
  match enclosed .openBracket .closeBracket type tokens with
  | .ok (elements, rest) => .ok (.tuple elements, rest)
  | .error _ =>
  match applied "Promise" type tokens with
  | .ok (inner, rest) => .ok (.promise inner, rest)
  | .error _ =>
  match applied "Array" type tokens with
  | .ok (element, rest) => .ok (.array element, rest)
  | .error _ => do
    let (signature, rest) ← signature type tokens
    return (.function signature, rest)

/-- `type` wrapped into an array type for each pair of brackets that follows. -/
def suffixed (type : TypeExpr) : List Token → TypeExpr × List Token
  | .openBracket :: .closeBracket :: rest => suffixed (.array type) rest
  | tokens => (type, tokens)

/-- A type in which types nest fewer than `depth` levels deep. -/
def type : (depth : Nat) → Reader TypeExpr
  | 0, tokens => .error tokens
  | depth + 1, tokens => do
    let (base, rest) ← primary (type depth) tokens
    return suffixed base rest

end Reader

/-- Why and where a text is no signature. -/
structure SyntaxFault where
  input : String
  /-- The byte of the text at which reading stopped. -/
  offset : Nat
  reason : String
  deriving DecidableEq

/-- The fault of a text whose tokens are `lexemes` when the last `unread` of them cannot be used. -/
def SyntaxFault.ofUnread (text : String) (lexemes : List Lexeme) (unread : Nat) : SyntaxFault :=
  match lexemes[lexemes.length - unread]? with
  | none => ⟨text, text.utf8ByteSize, "unexpected end of signature"⟩
  | some lexeme => ⟨text, lexeme.start, "unexpected `" ++ lexeme.token.firstChar.toString ++ "`"⟩

namespace Signature

/-- The signature that a list of tokens spells, or the tokens that cannot be used. -/
def ofTokens (tokens : List Token) : Except (List Token) Signature := do
  let (signature, rest) ← Reader.signature (Reader.type tokens.length) tokens
  if rest.isEmpty then return signature else throw rest

/-- The signature that a text spells, with blanks allowed between any two tokens. -/
def parse (text : String) : Except SyntaxFault Signature :=
  let lexemes := Lexeme.ofText text
  match ofTokens (lexemes.map Lexeme.token) with
  | .ok signature => .ok signature
  | .error unread => .error (.ofUnread text lexemes unread.length)

end Signature

end CallContracts
