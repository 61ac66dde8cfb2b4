import CallContracts.Signature.Token
import CallContracts.Signature.Basic

/-!
# The grammar of signatures

What texts spell signatures, stated without a reader. A text is cut into tokens: words, as long as
possible, and marks, with blanks anywhere between them. A list of tokens spells a signature by the
rules

    signature := [async] ( [parameter {, parameter}] ) => type
    parameter := word [?] : type | type [?]
    type      := signature | suffixed
    suffixed  := atom | suffixed [ ]
    atom      := keyword | [ [type {, type}] ] | Promise < type > | Array < type >

so array suffixes behind a signature belong to its return type, and `Array<T>` and `T[]` are two
spellings of one type.
-/

namespace CallContracts

namespace Token

/-- The characters of a mark. Words have none of their own, and a stray character is no token. -/
def markText? : Token → Option (List Char)
  | .openParen => some ['(']
  | .closeParen => some [')']
  | .comma => some [',']
  | .question => some ['?']
  | .colon => some [':']
  | .arrow => some ['=', '>']
  | .openBracket => some ['[']
  | .closeBracket => some [']']
  | .openAngle => some ['<']
  | .closeAngle => some ['>']
  | .word _ => none
  | .stray _ => none

/-- Whether a text is a word: it starts as words do and goes on as words do. -/
def isIdentifier (name : String) : Bool :=
  match name.toList with
  | [] => false
  | first :: others => isWordStart first && others.all isWordPart

/-- The token if it is present. -/
def ifPresent (token : Token) (present : Bool) : List Token :=
  if present then [token] else []

end Token

/-- The characters are these tokens, with any blanks between them and at both ends. A word ends only
where no character follows that could belong to it. -/
inductive Tokenizes : List Char → List Token → Prop where
  | nil : Tokenizes [] []
  | blank {character : Char} {rest : List Char} {tokens : List Token}
      (isBlank : Token.isBlank character) (behind : Tokenizes rest tokens) :
      Tokenizes (character :: rest) tokens
  | word {first : Char} {others rest : List Char} {tokens : List Token}
      (starts : Token.isWordStart first)
      (goesOn : ∀ character ∈ others, Token.isWordPart character)
      (ends : ∀ character ∈ rest.head?, Token.isWordPart character = false)
      (behind : Tokenizes rest tokens) :
      Tokenizes (first :: others ++ rest) (.word (String.ofList (first :: others)) :: tokens)
  | mark {token : Token} {characters rest : List Char} {tokens : List Token}
      (isMark : token.markText? = some characters) (behind : Tokenizes rest tokens) :
      Tokenizes (characters ++ rest) (token :: tokens)

section Lists

variable {α : Type} (Spelled : α → List Token → Prop)

/-- Any number of items, each behind a comma. -/
inductive FollowUps : List α → List Token → Prop where
  | nil : FollowUps [] []
  | cons {item : α} {items : List α} {tokens behind : List Token} (first : Spelled item tokens)
      (others : FollowUps items behind) : FollowUps (item :: items) (.comma :: tokens ++ behind)

/-- Any number of items with commas between them. -/
inductive Listing : List α → List Token → Prop where
  | nil : Listing [] []
  | cons {item : α} {items : List α} {tokens behind : List Token} (first : Spelled item tokens)
      (others : FollowUps Spelled items behind) : Listing (item :: items) (tokens ++ behind)

end Lists

mutual

/-- The tokens spell a signature. -/
inductive Signature.SpelledBy : Signature → List Token → Prop where
  | intro {isAsync : Bool} {parameters : List Parameter} {returns : TypeExpr}
      {inside behind : List Token} (listed : Listing Parameter.SpelledBy parameters inside)
      (returned : TypeExpr.SpelledBy returns behind) :
      Signature.SpelledBy ⟨isAsync, parameters, returns⟩
        (Token.ifPresent (.word "async") isAsync ++
          .openParen :: inside ++ .closeParen :: .arrow :: behind)

/-- The tokens spell a parameter. -/
inductive Parameter.SpelledBy : Parameter → List Token → Prop where
  | named {name : String} {optional : Bool} {type : TypeExpr} {tokens : List Token}
      (spelled : TypeExpr.SpelledBy type tokens) :
      Parameter.SpelledBy ⟨some name, optional, type⟩
        (.word name :: Token.ifPresent .question optional ++ .colon :: tokens)
  | bare {optional : Bool} {type : TypeExpr} {tokens : List Token}
      (spelled : TypeExpr.SpelledBy type tokens) :
      Parameter.SpelledBy ⟨none, optional, type⟩
        (tokens ++ Token.ifPresent .question optional)

/-- The tokens spell a type. -/
inductive TypeExpr.SpelledBy : TypeExpr → List Token → Prop where
  | function {signature : Signature} {tokens : List Token}
      (spelled : Signature.SpelledBy signature tokens) :
      TypeExpr.SpelledBy (.function signature) tokens
  | suffixed {type : TypeExpr} {tokens : List Token}
      (spelled : TypeExpr.SuffixedBy type tokens) : TypeExpr.SpelledBy type tokens

/-- The tokens spell a type as an atom with any number of array suffixes. -/
inductive TypeExpr.SuffixedBy : TypeExpr → List Token → Prop where
  | atom {type : TypeExpr} {tokens : List Token} (spelled : TypeExpr.AtomBy type tokens) :
      TypeExpr.SuffixedBy type tokens
  | array {element : TypeExpr} {tokens : List Token}
      (spelled : TypeExpr.SuffixedBy element tokens) :
      TypeExpr.SuffixedBy (.array element) (tokens ++ [.openBracket, .closeBracket])

/-- The tokens spell a type as an atom. -/
inductive TypeExpr.AtomBy : TypeExpr → List Token → Prop where
  | keyword (kind : Primitive) : TypeExpr.AtomBy (.primitive kind) [.word kind.keyword]
  | tuple {elements : List TypeExpr} {inside : List Token}
      (listed : Listing TypeExpr.SpelledBy elements inside) :
      TypeExpr.AtomBy (.tuple elements) (.openBracket :: inside ++ [.closeBracket])
  | promise {inner : TypeExpr} {tokens : List Token} (spelled : TypeExpr.SpelledBy inner tokens) :
      TypeExpr.AtomBy (.promise inner)
        (.word "Promise" :: .openAngle :: tokens ++ [.closeAngle])
  | array {element : TypeExpr} {tokens : List Token}
      (spelled : TypeExpr.SpelledBy element tokens) :
      TypeExpr.AtomBy (.array element) (.word "Array" :: .openAngle :: tokens ++ [.closeAngle])

end

mutual

/-- Whether all parameter names in a type are words. -/
def TypeExpr.isWellNamed : TypeExpr → Bool
  | .primitive _ => true
  | .array element => element.isWellNamed
  | .tuple elements => TypeExpr.areWellNamed elements
  | .promise inner => inner.isWellNamed
  | .function signature => signature.isWellNamed
termination_by structural type => type

/-- Whether all parameter names in several types are words. -/
def TypeExpr.areWellNamed : List TypeExpr → Bool
  | [] => true
  | type :: types => type.isWellNamed && TypeExpr.areWellNamed types
termination_by structural types => types

/-- Whether the name of a parameter, if it has one, and all names in its type are words. -/
def Parameter.isWellNamed : Parameter → Bool
  | ⟨name, _, type⟩ => name.all Token.isIdentifier && type.isWellNamed
termination_by structural parameter => parameter

/-- Whether all names in several parameters are words. -/
def Parameter.areWellNamed : List Parameter → Bool
  | [] => true
  | parameter :: parameters => parameter.isWellNamed && Parameter.areWellNamed parameters
termination_by structural parameters => parameters

/-- Whether all parameter names in a signature, at every depth, are words. -/
def Signature.isWellNamed : Signature → Bool
  | ⟨_, parameters, returns⟩ => Parameter.areWellNamed parameters && returns.isWellNamed
termination_by structural signature => signature

end

/-! ## What the tokens of a signature are -/

/-- No token is a stray character, and if every word among them is an identifier, then what they
spell is well named. -/
structure SpellsCleanly (wellNamed : Bool) (tokens : List Token) : Prop where
  noStray : ∀ character, Token.stray character ∉ tokens
  named : (∀ name, Token.word name ∈ tokens → Token.isIdentifier name) → wellNamed = true

namespace SpellsCleanly

theorem append {left right : Bool} {tokens others : List Token}
    (first : SpellsCleanly left tokens) (second : SpellsCleanly right others) :
    SpellsCleanly (left && right) (tokens ++ others) := by
  refine ⟨?_, ?_⟩
  · intro character
    simp [first.noStray, second.noStray]
  · intro named
    rw [Bool.and_eq_true]
    exact ⟨first.named fun name member => named name (List.mem_append_left _ member),
      second.named fun name member => named name (List.mem_append_right _ member)⟩

/-- Tokens that spell no name. -/
theorem of_noStray {tokens : List Token} (noStray : ∀ character, Token.stray character ∉ tokens) :
    SpellsCleanly true tokens :=
  ⟨noStray, fun _ => rfl⟩

theorem word (name : String) : SpellsCleanly (Token.isIdentifier name) [.word name] :=
  ⟨by simp, fun named => named name List.mem_cons_self⟩

theorem ifPresent {token : Token} (present : Bool)
    (noStray : ∀ character, Token.stray character ≠ token) :
    SpellsCleanly true (token.ifPresent present) := by
  apply of_noStray
  intro character
  cases present with
  | false => simp [Token.ifPresent]
  | true => simpa [Token.ifPresent] using noStray character

/-- Tokens with marks or keywords around them. -/
theorem enclosed {wellNamed : Bool} {tokens : List Token} (inside : SpellsCleanly wellNamed tokens)
    (opening closing : List Token)
    (opens : ∀ character, Token.stray character ∉ opening)
    (closes : ∀ character, Token.stray character ∉ closing) :
    SpellsCleanly wellNamed (opening ++ tokens ++ closing) := by
  simpa using ((of_noStray opens).append inside).append (of_noStray closes)

end SpellsCleanly

mutual

theorem Signature.SpelledBy.cleanly {signature : Signature} {tokens : List Token} :
    signature.SpelledBy tokens → SpellsCleanly signature.isWellNamed tokens
  | @Signature.SpelledBy.intro isAsync parameters returns inside behind listed returned => by
      have asynchronous : SpellsCleanly true (Token.ifPresent (.word "async") isAsync) :=
        SpellsCleanly.ifPresent isAsync (by simp)
      have enclosed : SpellsCleanly (Parameter.areWellNamed parameters)
          ([.openParen] ++ inside ++ [.closeParen, .arrow]) :=
        (Parameter.cleanly_of_listing listed).enclosed [.openParen] [.closeParen, .arrow] (by simp)
          (by simp)
      simpa [Signature.isWellNamed] using asynchronous.append (enclosed.append returned.cleanly)

theorem Parameter.SpelledBy.cleanly {parameter : Parameter} {tokens : List Token} :
    parameter.SpelledBy tokens → SpellsCleanly parameter.isWellNamed tokens
  | @Parameter.SpelledBy.named name optional type tokens spelled => by
      have question : SpellsCleanly true (Token.ifPresent .question optional) :=
        SpellsCleanly.ifPresent optional (by simp)
      have colon : SpellsCleanly type.isWellNamed ([.colon] ++ tokens ++ []) :=
        spelled.cleanly.enclosed [.colon] [] (by simp) (by simp)
      simpa [Parameter.isWellNamed] using (SpellsCleanly.word name).append (question.append colon)
  | @Parameter.SpelledBy.bare optional type tokens spelled => by
      have question : SpellsCleanly true (Token.ifPresent .question optional) :=
        SpellsCleanly.ifPresent optional (by simp)
      simpa [Parameter.isWellNamed] using spelled.cleanly.append question

theorem TypeExpr.SpelledBy.cleanly {type : TypeExpr} {tokens : List Token} :
    type.SpelledBy tokens → SpellsCleanly type.isWellNamed tokens
  | .function spelled => spelled.cleanly
  | .suffixed spelled => spelled.cleanly

theorem TypeExpr.SuffixedBy.cleanly {type : TypeExpr} {tokens : List Token} :
    type.SuffixedBy tokens → SpellsCleanly type.isWellNamed tokens
  | .atom spelled => spelled.cleanly
  | .array spelled => spelled.cleanly.enclosed [] [.openBracket, .closeBracket] (by simp) (by simp)

theorem TypeExpr.AtomBy.cleanly {type : TypeExpr} {tokens : List Token} :
    type.AtomBy tokens → SpellsCleanly type.isWellNamed tokens
  | .keyword kind => SpellsCleanly.of_noStray (by simp)
  | .tuple listed =>
      (TypeExpr.cleanly_of_listing listed).enclosed [.openBracket] [.closeBracket] (by simp)
        (by simp)
  | .promise spelled =>
      spelled.cleanly.enclosed [.word "Promise", .openAngle] [.closeAngle] (by simp) (by simp)
  | .array spelled =>
      spelled.cleanly.enclosed [.word "Array", .openAngle] [.closeAngle] (by simp) (by simp)

theorem TypeExpr.cleanly_of_listing {types : List TypeExpr} {tokens : List Token} :
    Listing TypeExpr.SpelledBy types tokens → SpellsCleanly (TypeExpr.areWellNamed types) tokens
  | .nil => SpellsCleanly.of_noStray (by simp)
  | .cons spelled others => spelled.cleanly.append (TypeExpr.cleanly_of_followUps others)

theorem TypeExpr.cleanly_of_followUps {types : List TypeExpr} {tokens : List Token} :
    FollowUps TypeExpr.SpelledBy types tokens → SpellsCleanly (TypeExpr.areWellNamed types) tokens
  | .nil => SpellsCleanly.of_noStray (by simp)
  | .cons spelled others => by
      have comma : SpellsCleanly true [.comma] := SpellsCleanly.of_noStray (by simp)
      exact comma.append (spelled.cleanly.append (TypeExpr.cleanly_of_followUps others))

theorem Parameter.cleanly_of_listing {parameters : List Parameter} {tokens : List Token} :
    Listing Parameter.SpelledBy parameters tokens →
      SpellsCleanly (Parameter.areWellNamed parameters) tokens
  | .nil => SpellsCleanly.of_noStray (by simp)
  | .cons spelled others => spelled.cleanly.append (Parameter.cleanly_of_followUps others)

theorem Parameter.cleanly_of_followUps {parameters : List Parameter} {tokens : List Token} :
    FollowUps Parameter.SpelledBy parameters tokens →
      SpellsCleanly (Parameter.areWellNamed parameters) tokens
  | .nil => SpellsCleanly.of_noStray (by simp)
  | .cons spelled others => by
      have comma : SpellsCleanly true [.comma] := SpellsCleanly.of_noStray (by simp)
      exact comma.append (spelled.cleanly.append (Parameter.cleanly_of_followUps others))

end

/-! ## How types open -/

/-- Tokens that a type can open with: a parenthesis, a bracket, or a word that is not followed as
the name of a parameter is. -/
inductive OpensType : List Token → Prop where
  | paren (behind : List Token) : OpensType (.openParen :: behind)
  | bracket (behind : List Token) : OpensType (.openBracket :: behind)
  | word (name : String) (behind : List Token)
      (noLabel : ∀ token ∈ behind.head?, token ≠ .question ∧ token ≠ .colon) :
      OpensType (.word name :: behind)

theorem OpensType.append {tokens : List Token} (opens : OpensType tokens) (behind : List Token)
    (noLabel : ∀ token ∈ behind.head?, token ≠ .question ∧ token ≠ .colon) :
    OpensType (tokens ++ behind) := by
  cases opens with
  | paren inside => exact .paren _
  | bracket inside => exact .bracket _
  | word name inside free =>
      cases inside with
      | nil => exact .word name behind noLabel
      | cons token inside => exact .word name _ free

theorem TypeExpr.AtomBy.opens {type : TypeExpr} {tokens : List Token}
    (spelled : type.AtomBy tokens) : OpensType tokens := by
  cases spelled with
  | keyword kind => exact .word _ [] (by simp)
  | tuple listed => exact .bracket _
  | promise spelled => exact .word _ _ (by simp)
  | array spelled => exact .word _ _ (by simp)

theorem TypeExpr.SuffixedBy.opens {type : TypeExpr} {tokens : List Token} :
    type.SuffixedBy tokens → OpensType tokens
  | .atom spelled => spelled.opens
  | .array spelled => spelled.opens.append [.openBracket, .closeBracket] (by simp)

theorem Signature.SpelledBy.opens {signature : Signature} {tokens : List Token}
    (spelled : signature.SpelledBy tokens) : OpensType tokens := by
  rcases spelled with @⟨isAsync, parameters, returns, inside, behind, _, _⟩
  cases isAsync with
  | false => exact .paren _
  | true => exact .word "async" _ (by simp)

theorem TypeExpr.SpelledBy.opens {type : TypeExpr} {tokens : List Token}
    (spelled : type.SpelledBy tokens) : OpensType tokens := by
  cases spelled with
  | function spelled => exact spelled.opens
  | suffixed spelled => exact spelled.opens

end CallContracts
