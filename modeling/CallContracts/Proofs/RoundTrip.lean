import CallContracts.Proofs.Acceptance
import CallContracts.Signature.Printer

/-!
# Reading what was written

The written form of a signature is read as that signature again. Its tokens are given beside the
text: they spell the signature, and the text can be cut into them, because a word is always followed
by a mark or a blank. All that is asked of a signature is that its parameter names are words, and
every signature that is read from a text has such names.
-/

namespace CallContracts

/-! ## The tokens of the written form -/

/-- Lists of tokens one after another, with a comma between two of them. -/
def commaTokens : List (List Token) → List Token
  | [] => []
  | tokens :: others => tokens ++ others.flatMap fun tokens => .comma :: tokens

mutual

/-- The tokens of the written form of a type. -/
def TypeExpr.tokens : TypeExpr → List Token
  | .primitive kind => [.word kind.keyword]
  | .array (.function signature) =>
    .word "Array" :: .openAngle :: signature.tokens ++ [.closeAngle]
  | .array element => element.tokens ++ [.openBracket, .closeBracket]
  | .tuple elements => .openBracket :: commaTokens (TypeExpr.tokenLists elements) ++ [.closeBracket]
  | .promise inner => .word "Promise" :: .openAngle :: inner.tokens ++ [.closeAngle]
  | .function signature => signature.tokens
termination_by structural type => type

/-- The tokens of the written forms of several types. -/
def TypeExpr.tokenLists : List TypeExpr → List (List Token)
  | [] => []
  | type :: types => type.tokens :: TypeExpr.tokenLists types
termination_by structural types => types

/-- The tokens of the written form of a parameter. -/
def Parameter.tokens : Parameter → List Token
  | ⟨some name, optional, type⟩ =>
    .word name :: Token.ifPresent .question optional ++ .colon :: type.tokens
  | ⟨none, optional, type⟩ => type.tokens ++ Token.ifPresent .question optional
termination_by structural parameter => parameter

/-- The tokens of the written forms of several parameters. -/
def Parameter.tokenLists : List Parameter → List (List Token)
  | [] => []
  | parameter :: parameters => parameter.tokens :: Parameter.tokenLists parameters
termination_by structural parameters => parameters

/-- The tokens of the written form of a signature. -/
def Signature.tokens : Signature → List Token
  | ⟨isAsync, parameters, returns⟩ =>
    Token.ifPresent (.word "async") isAsync ++
      .openParen :: commaTokens (Parameter.tokenLists parameters) ++
      .closeParen :: .arrow :: returns.tokens
termination_by structural signature => signature

end

theorem TypeExpr.tokenLists_eq_map (types : List TypeExpr) :
    TypeExpr.tokenLists types = types.map TypeExpr.tokens := by
  induction types with
  | nil => simp [TypeExpr.tokenLists]
  | cons type types ih => simp [TypeExpr.tokenLists, ih]

theorem Parameter.tokenLists_eq_map (parameters : List Parameter) :
    Parameter.tokenLists parameters = parameters.map Parameter.tokens := by
  induction parameters with
  | nil => simp [Parameter.tokenLists]
  | cons parameter parameters ih => simp [Parameter.tokenLists, ih]

theorem TypeExpr.tokens_array {element : TypeExpr}
    (noFunction : ∀ signature, element ≠ .function signature) :
    (TypeExpr.array element).tokens = element.tokens ++ [.openBracket, .closeBracket] := by
  cases element with
  | function signature => exact absurd rfl (noFunction signature)
  | _ => simp only [TypeExpr.tokens]

theorem TypeExpr.text_array {element : TypeExpr}
    (noFunction : ∀ signature, element ≠ .function signature) :
    (TypeExpr.array element).text = element.text ++ "[]" := by
  cases element with
  | function signature => exact absurd rfl (noFunction signature)
  | _ => simp only [TypeExpr.text]

/-! ## The tokens spell the signature -/

theorem TypeExpr.SpelledBy.suffixed_of_noFunction {type : TypeExpr} {tokens : List Token}
    (spelled : type.SpelledBy tokens) (noFunction : ∀ signature, type ≠ .function signature) :
    type.SuffixedBy tokens := by
  cases spelled with
  | @function signature _ _ => exact absurd rfl (noFunction signature)
  | suffixed spelled => exact spelled

section Lists

variable {α : Type} {Spelled : α → List Token → Prop} {tokens : α → List Token} {items : List α}

theorem followUps_of_forall (spelled : ∀ item ∈ items, Spelled item (tokens item)) :
    FollowUps Spelled items ((items.map tokens).flatMap fun tokens => .comma :: tokens) := by
  induction items with
  | nil => exact .nil
  | cons item items ih =>
      rw [List.forall_mem_cons] at spelled
      exact .cons spelled.1 (ih spelled.2)

theorem listing_of_forall (spelled : ∀ item ∈ items, Spelled item (tokens item)) :
    Listing Spelled items (commaTokens (items.map tokens)) := by
  cases items with
  | nil => exact .nil
  | cons item items =>
      rw [List.forall_mem_cons] at spelled
      exact .cons spelled.1 (followUps_of_forall spelled.2)

end Lists

mutual

theorem TypeExpr.spelledBy_tokens : (type : TypeExpr) → type.SpelledBy type.tokens
  | .primitive kind => .suffixed (.atom (.keyword kind))
  | .array element => by
      have spelled := element.spelledBy_tokens
      by_cases isFunction : ∃ signature, element = .function signature
      · rcases isFunction with ⟨signature, rfl⟩
        exact .suffixed (.atom (.array spelled))
      · have noFunction : ∀ signature, element ≠ .function signature := not_exists.mp isFunction
        rw [TypeExpr.tokens_array noFunction]
        exact .suffixed (.array (spelled.suffixed_of_noFunction noFunction))
  | .tuple elements => by
      have listed := listing_of_forall (TypeExpr.forall_spelledBy_tokens elements)
      rw [← TypeExpr.tokenLists_eq_map] at listed
      exact .suffixed (.atom (.tuple listed))
  | .promise inner => .suffixed (.atom (.promise inner.spelledBy_tokens))
  | .function signature => .function signature.spelledBy_tokens
termination_by structural type => type

theorem TypeExpr.forall_spelledBy_tokens :
    (types : List TypeExpr) → ∀ type ∈ types, type.SpelledBy type.tokens
  | [] => by simp
  | type :: types =>
      List.forall_mem_cons.mpr ⟨type.spelledBy_tokens, TypeExpr.forall_spelledBy_tokens types⟩
termination_by structural types => types

theorem Parameter.spelledBy_tokens : (parameter : Parameter) → parameter.SpelledBy parameter.tokens
  | ⟨some _, _, type⟩ => .named type.spelledBy_tokens
  | ⟨none, _, type⟩ => .bare type.spelledBy_tokens
termination_by structural parameter => parameter

theorem Parameter.forall_spelledBy_tokens :
    (parameters : List Parameter) → ∀ parameter ∈ parameters, parameter.SpelledBy parameter.tokens
  | [] => by simp
  | parameter :: parameters =>
      List.forall_mem_cons.mpr
        ⟨parameter.spelledBy_tokens, Parameter.forall_spelledBy_tokens parameters⟩
termination_by structural parameters => parameters

theorem Signature.spelledBy_tokens : (signature : Signature) → signature.SpelledBy signature.tokens
  | ⟨_, parameters, returns⟩ => by
      have listed := listing_of_forall (Parameter.forall_spelledBy_tokens parameters)
      rw [← Parameter.tokenLists_eq_map] at listed
      exact .intro listed returns.spelledBy_tokens
termination_by structural signature => signature

end

/-! ## The text is cut into the tokens -/

/-- No word goes on from the first characters into the others. -/
def Apart (front rest : List Char) : Prop :=
  (∀ character ∈ front.getLast?, Token.isWordPart character = false) ∨
    ∀ character ∈ rest.head?, Token.isWordPart character = false

theorem Apart.of_append (front : List Char) {behind rest : List Char}
    (apart : Apart (front ++ behind) rest) : Apart behind rest := by
  cases behind with
  | nil => exact Or.inl (by simp)
  | cons character behind => simpa [Apart, List.getLast?_append] using apart

theorem Token.isWordPart_of_isWordStart {character : Char} (starts : isWordStart character) :
    isWordPart character := by
  simp only [isWordStart, isWordPart, Char.isAlphanum, Bool.or_eq_true] at starts ⊢
  rcases starts with (letter | underscore) | dollar
  · exact Or.inl (Or.inl (Or.inl letter))
  · exact Or.inl (Or.inr underscore)
  · exact Or.inr dollar

/-- The characters of a word are not apart from a character that can belong to it. -/
theorem Apart.ends_word {first : Char} {others rest : List Char} (starts : Token.isWordStart first)
    (goesOn : ∀ character ∈ others, Token.isWordPart character)
    (apart : Apart (first :: others) rest) :
    ∀ character ∈ rest.head?, Token.isWordPart character = false := by
  rcases apart with closes | opens
  · have isLast := List.getLast?_eq_some_getLast (List.cons_ne_nil first others)
    have isPart : Token.isWordPart ((first :: others).getLast (List.cons_ne_nil _ _)) := by
      rcases List.mem_cons.mp (List.getLast_mem (List.cons_ne_nil first others)) with same | member
      · rw [same]
        exact Token.isWordPart_of_isWordStart starts
      · exact goesOn _ member
    rw [closes _ isLast] at isPart
    cases isPart
  · exact opens

/-- Texts that stand apart are cut into tokens one by one. -/
theorem Tokenizes.append {front rest : List Char} {tokens others : List Token}
    (first : Tokenizes front tokens) (second : Tokenizes rest others) (apart : Apart front rest) :
    Tokenizes (front ++ rest) (tokens ++ others) := by
  induction first with
  | nil => exact second
  | @blank character front tokens isBlank _ ih =>
      exact .blank isBlank (ih (Apart.of_append [character] apart))
  | @word character letters front tokens starts goesOn ends _ ih =>
      have apartBehind : ∀ character ∈ (front ++ rest).head?,
          Token.isWordPart character = false := by
        cases front with
        | nil =>
            rw [List.append_nil] at apart
            exact apart.ends_word starts goesOn
        | cons next front => exact ends
      rw [List.append_assoc]
      exact .word starts goesOn apartBehind (ih (Apart.of_append _ apart))
  | mark isMark _ ih =>
      rw [List.append_assoc]
      exact .mark isMark (ih (Apart.of_append _ apart))

/-- A name is one word. -/
theorem Tokenizes.of_isIdentifier {name : String} (identifier : Token.isIdentifier name) :
    Tokenizes name.toList [.word name] := by
  cases letters : name.toList with
  | nil => simp [Token.isIdentifier, letters] at identifier
  | cons first others =>
      simp only [Token.isIdentifier, letters, Bool.and_eq_true, List.all_eq_true] at identifier
      have tokenizes : Tokenizes (first :: others ++ [])
          [.word (String.ofList (first :: others))] :=
        .word identifier.1 identifier.2 (by simp) .nil
      rw [← letters, String.ofList_toList, letters, List.append_nil] at tokenizes
      exact tokenizes

/-- The text stands for these marks, and no word goes on from it or into it. -/
structure Separates (text : String) (marks : List Token) : Prop where
  tokenizes : Tokenizes text.toList marks
  nonempty : text.toList ≠ []
  opens : ∀ character ∈ text.toList.head?, Token.isWordPart character = false
  closes : ∀ character ∈ text.toList.getLast?, Token.isWordPart character = false

theorem separates_comma : Separates ", " [.comma] :=
  ⟨(Lexeme.tokenizes_iff _ _).mpr ⟨by decide +kernel, by simp⟩, by simp,
    by simp [Token.isWordPart], by simp [Token.isWordPart]⟩

theorem separates_colon : Separates ": " [.colon] :=
  ⟨(Lexeme.tokenizes_iff _ _).mpr ⟨by decide +kernel, by simp⟩, by simp,
    by simp [Token.isWordPart], by simp [Token.isWordPart]⟩

theorem separates_questionColon : Separates "?: " [.question, .colon] :=
  ⟨(Lexeme.tokenizes_iff _ _).mpr ⟨by decide +kernel, by simp⟩, by simp,
    by simp [Token.isWordPart], by simp [Token.isWordPart]⟩

theorem separates_arrow : Separates ") => " [.closeParen, .arrow] :=
  ⟨(Lexeme.tokenizes_iff _ _).mpr ⟨by decide +kernel, by simp⟩, by simp,
    by simp [Token.isWordPart], by simp [Token.isWordPart]⟩

theorem Separates.between {front middle behind : String} {tokens marks others : List Token}
    (separates : Separates middle marks) (first : Tokenizes front.toList tokens)
    (second : Tokenizes behind.toList others) :
    Tokenizes (front ++ middle ++ behind).toList (tokens ++ (marks ++ others)) := by
  rw [String.append_assoc, String.toList_append]
  have apart : Apart front.toList (middle ++ behind).toList := by
    right
    cases letters : middle.toList with
    | nil => exact absurd letters separates.nonempty
    | cons character letters' =>
        have opens := separates.opens
        simpa [letters] using opens
  refine first.append ?_ apart
  rw [String.toList_append]
  exact separates.tokenizes.append second (Or.inl separates.closes)

/-- A text with marks in front of it and behind it. -/
theorem Tokenizes.enclosed {opening middle closing : String} {opens inside closes : List Token}
    (front : Tokenizes opening.toList opens) (inner : Tokenizes middle.toList inside)
    (back : Tokenizes closing.toList closes)
    (apartBefore : ∀ character ∈ opening.toList.getLast?, Token.isWordPart character = false)
    (apartBehind : ∀ character ∈ closing.toList.head?, Token.isWordPart character = false) :
    Tokenizes (opening ++ middle ++ closing).toList (opens ++ inside ++ closes) := by
  rw [String.toList_append, String.toList_append]
  exact (front.append inner (Or.inl apartBefore)).append back (Or.inr apartBehind)

/-- Texts with commas between them are cut into the tokens of each. -/
theorem tokenizes_commaSeparated {α : Type} {text : α → String} {tokens : α → List Token}
    {items : List α} (written : ∀ item ∈ items, Tokenizes (text item).toList (tokens item)) :
    Tokenizes (commaSeparated (items.map text)).toList (commaTokens (items.map tokens)) := by
  induction items with
  | nil => exact .nil
  | cons item items ih =>
      rw [List.forall_mem_cons] at written
      cases items with
      | nil => simpa [commaSeparated, commaTokens] using written.1
      | cons next items =>
          have joined := separates_comma.between written.1 (ih written.2)
          simp only [commaSeparated, List.map_cons, String.intercalate_cons_cons]
          exact joined

theorem Primitive.isIdentifier_keyword (kind : Primitive) :
    Token.isIdentifier kind.keyword := by
  cases kind <;> decide

mutual

theorem TypeExpr.tokenizes_text :
    (type : TypeExpr) → type.isWellNamed → Tokenizes type.text.toList type.tokens
  | .primitive kind, _ => .of_isIdentifier kind.isIdentifier_keyword
  | .array element, named => by
      have written := element.tokenizes_text named
      -- Behind a function, a suffix would belong to what it returns.
      by_cases isFunction : ∃ signature, element = .function signature
      · rcases isFunction with ⟨signature, rfl⟩
        have opening : Tokenizes "Array<".toList [.word "Array", .openAngle] :=
          (Lexeme.tokenizes_iff _ _).mpr ⟨by decide +kernel, by simp⟩
        have closing : Tokenizes ">".toList [.closeAngle] :=
          (Lexeme.tokenizes_iff _ _).mpr ⟨by decide +kernel, by simp⟩
        exact opening.enclosed written closing (by simp [Token.isWordPart])
          (by simp [Token.isWordPart])
      · have noFunction : ∀ signature, element ≠ .function signature := not_exists.mp isFunction
        have suffix : Tokenizes "[]".toList [.openBracket, .closeBracket] :=
          (Lexeme.tokenizes_iff _ _).mpr ⟨by decide +kernel, by simp⟩
        rw [TypeExpr.text_array noFunction, TypeExpr.tokens_array noFunction, String.toList_append]
        exact written.append suffix (Or.inr (by simp [Token.isWordPart]))
  | .tuple elements, named => by
      have written := tokenizes_commaSeparated (TypeExpr.forall_tokenizes_text elements named)
      rw [← TypeExpr.texts_eq_map, ← TypeExpr.tokenLists_eq_map] at written
      have opening : Tokenizes "[".toList [.openBracket] :=
        (Lexeme.tokenizes_iff _ _).mpr ⟨by decide +kernel, by simp⟩
      have closing : Tokenizes "]".toList [.closeBracket] :=
        (Lexeme.tokenizes_iff _ _).mpr ⟨by decide +kernel, by simp⟩
      exact opening.enclosed written closing (by simp [Token.isWordPart])
        (by simp [Token.isWordPart])
  | .promise inner, named => by
      have written := inner.tokenizes_text named
      have opening : Tokenizes "Promise<".toList [.word "Promise", .openAngle] :=
        (Lexeme.tokenizes_iff _ _).mpr ⟨by decide +kernel, by simp⟩
      have closing : Tokenizes ">".toList [.closeAngle] :=
        (Lexeme.tokenizes_iff _ _).mpr ⟨by decide +kernel, by simp⟩
      exact opening.enclosed written closing (by simp [Token.isWordPart])
        (by simp [Token.isWordPart])
  | .function signature, named => signature.tokenizes_text named
termination_by structural type => type

theorem TypeExpr.forall_tokenizes_text : (types : List TypeExpr) → TypeExpr.areWellNamed types →
    ∀ type ∈ types, Tokenizes type.text.toList type.tokens
  | [], _ => by simp
  | type :: types, named => by
      rw [TypeExpr.areWellNamed, Bool.and_eq_true] at named
      exact List.forall_mem_cons.mpr
        ⟨type.tokenizes_text named.1, TypeExpr.forall_tokenizes_text types named.2⟩
termination_by structural types => types

theorem Parameter.tokenizes_text :
    (parameter : Parameter) → parameter.isWellNamed →
      Tokenizes parameter.text.toList parameter.tokens
  | ⟨some name, optional, type⟩, named => by
      rw [Parameter.isWellNamed, Bool.and_eq_true] at named
      have label : Tokenizes name.toList [.word name] := .of_isIdentifier (by simpa using named.1)
      have written := type.tokenizes_text named.2
      cases optional with
      | false => exact separates_colon.between label written
      | true => exact separates_questionColon.between label written
  | ⟨none, optional, type⟩, named => by
      rw [Parameter.isWellNamed, Bool.and_eq_true] at named
      have written := type.tokenizes_text named.2
      cases optional with
      | false =>
          rw [Parameter.text, Parameter.tokens, Token.ifPresent, if_neg (by decide),
            List.append_nil]
          exact written
      | true =>
          have question : Tokenizes "?".toList [.question] :=
            (Lexeme.tokenizes_iff _ _).mpr ⟨by decide +kernel, by simp⟩
          rw [Parameter.text, String.toList_append]
          exact written.append question (Or.inr (by simp [Token.isWordPart]))
termination_by structural parameter => parameter

theorem Parameter.forall_tokenizes_text :
    (parameters : List Parameter) → Parameter.areWellNamed parameters →
      ∀ parameter ∈ parameters, Tokenizes parameter.text.toList parameter.tokens
  | [], _ => by simp
  | parameter :: parameters, named => by
      rw [Parameter.areWellNamed, Bool.and_eq_true] at named
      exact List.forall_mem_cons.mpr
        ⟨parameter.tokenizes_text named.1, Parameter.forall_tokenizes_text parameters named.2⟩
termination_by structural parameters => parameters

theorem Signature.tokenizes_text :
    (signature : Signature) → signature.isWellNamed →
      Tokenizes signature.text.toList signature.tokens
  | ⟨isAsync, parameters, returns⟩, named => by
      rw [Signature.isWellNamed, Bool.and_eq_true] at named
      have written := tokenizes_commaSeparated
        (Parameter.forall_tokenizes_text parameters named.1)
      rw [← Parameter.texts_eq_map, ← Parameter.tokenLists_eq_map] at written
      have returned := returns.tokenizes_text named.2
      cases isAsync with
      | false =>
          have opening : Tokenizes "(".toList [.openParen] :=
            (Lexeme.tokenizes_iff _ _).mpr ⟨by decide +kernel, by simp⟩
          have front := opening.append written (Or.inl (by simp [Token.isWordPart]))
          rw [← String.toList_append] at front
          exact separates_arrow.between front returned
      | true =>
          have opening : Tokenizes "async (".toList [.word "async", .openParen] :=
            (Lexeme.tokenizes_iff _ _).mpr ⟨by decide +kernel, by simp⟩
          have front := opening.append written (Or.inl (by simp [Token.isWordPart]))
          rw [← String.toList_append] at front
          exact separates_arrow.between front returned
termination_by structural signature => signature

end

/-! ## Writing and reading -/

namespace Signature

theorem parse_text {signature : Signature} (named : signature.isWellNamed) :
    parse signature.text = .ok signature := by
  have tokenizes := signature.tokenizes_text named
  rw [parse_eq_ok, ((Lexeme.tokenizes_iff _ _).mp tokenizes).1]
  exact signature.spelledBy_tokens

/-- The words of a text are identifiers, and the names of a signature that is read from it are among
them. -/
theorem isWellNamed_of_parse {text : String} {signature : Signature}
    (accepted : parse text = .ok signature) : signature.isWellNamed := by
  have spelled := parse_eq_ok.mp accepted
  have tokenizes := (Lexeme.tokenizes_iff text _).mpr ⟨rfl, spelled.cleanly.noStray⟩
  exact spelled.cleanly.named tokenizes.isIdentifier_of_word

/-- Every signature whose parameter names are words, at every depth, is what its written form is
read as, and no other signatures are read from any text. -/
theorem parse_text_round_trip :
    (∀ signature : Signature, signature.isWellNamed → parse signature.text = .ok signature) ∧
    (∀ (text : String) (signature : Signature), parse text = .ok signature →
      signature.isWellNamed ∧ parse signature.text = .ok signature) := by
  refine ⟨?_, ?_⟩
  · intro signature named
    exact parse_text named
  · intro text signature accepted
    have named := isWellNamed_of_parse accepted
    exact ⟨named, parse_text named⟩

/-- An asynchronous signature with a parameter that is called `async` and is an array of functions,
and with an optional function that has no name and returns an array. -/
theorem parse_text_round_trip_of_functions :
    Signature.isWellNamed
      ⟨true, [⟨some "async", true, .array (.function ⟨false, [], .primitive .void⟩)⟩,
        ⟨none, true, .function ⟨true, [], .array (.primitive .null)⟩⟩], .tuple []⟩ ∧
    parse "async (async?: Array<() => void>, async () => null[]?) => []" =
      .ok ⟨true, [⟨some "async", true, .array (.function ⟨false, [], .primitive .void⟩)⟩,
        ⟨none, true, .function ⟨true, [], .array (.primitive .null)⟩⟩], .tuple []⟩ := by
  have named : Signature.isWellNamed
      ⟨true, [⟨some "async", true, .array (.function ⟨false, [], .primitive .void⟩)⟩,
        ⟨none, true, .function ⟨true, [], .array (.primitive .null)⟩⟩], .tuple []⟩ := by decide
  have accepted := parse_text_round_trip.1 _ named
  exact ⟨(parse_text_round_trip.2 _ _ accepted).1, accepted⟩

end Signature

end CallContracts
