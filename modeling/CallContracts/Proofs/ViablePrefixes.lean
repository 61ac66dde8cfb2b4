import Mathlib
import CallContracts.Proofs.RoundTrip

/-!
# Where reading stops

A text that is no signature is reported with the place at which reading stopped. That place is the
start of a token or the end of the text, and what stands in front of it can be continued to a
signature: however many alternatives have been tried and given back, the place that is reported is
never behind the mistake.

Readers get stuck only where a mark is missing that has to follow. Everything else is optional: a
list that cannot go on ends, and a type that is none of the other alternatives gets stuck where a
signature would. So what a reader has used is spelled as far as it goes, and one completion for each
missing mark is enough.
-/

namespace CallContracts

/-! ## Prefixes of what can be spelled -/

/-- The tokens can be continued, by words and marks, to tokens that spell something. -/
def Viable {α : Type} (Spelled : α → List Token → Prop) (tokens : List Token) : Prop :=
  ∃ more value, (∀ name, Token.word name ∈ more → Token.isIdentifier name) ∧
    Spelled value (tokens ++ more)

/-- The tokens of a return type. -/
theorem spelledBy_void : TypeExpr.SpelledBy (.primitive .void) [.word "void"] :=
  .suffixed (.atom (.keyword .void))

theorem isIdentifier_void : Token.isIdentifier "void" := by decide

namespace Signature

section Completions

variable {parameters : List Parameter} {inside : List Token}

/-- A signature can be continued behind `async`, or from the start. -/
theorem viable_of_front (isAsync : Bool) :
    Viable SpelledBy (Token.ifPresent (.word "async") isAsync) := by
  refine ⟨[.openParen, .closeParen, .arrow, .word "void"], ⟨isAsync, [], .primitive .void⟩, ?_, ?_⟩
  · simpa using isIdentifier_void
  · have spelled : SpelledBy ⟨isAsync, [], .primitive .void⟩ _ := .intro .nil spelledBy_void
    simpa using spelled

/-- A signature can be continued behind a parameter. -/
theorem viable_of_parameters (isAsync : Bool)
    (listed : Listing Parameter.SpelledBy parameters inside) :
    Viable SpelledBy (Token.ifPresent (.word "async") isAsync ++ .openParen :: inside) := by
  refine ⟨[.closeParen, .arrow, .word "void"], ⟨isAsync, parameters, .primitive .void⟩, ?_, ?_⟩
  · simpa using isIdentifier_void
  · have spelled : SpelledBy ⟨isAsync, parameters, .primitive .void⟩ _ :=
      .intro listed spelledBy_void
    simpa using spelled

/-- A signature can be continued behind its parameters. -/
theorem viable_of_closed (isAsync : Bool)
    (listed : Listing Parameter.SpelledBy parameters inside) :
    Viable SpelledBy
      (Token.ifPresent (.word "async") isAsync ++ .openParen :: inside ++ [.closeParen]) := by
  refine ⟨[.arrow, .word "void"], ⟨isAsync, parameters, .primitive .void⟩, ?_, ?_⟩
  · simpa using isIdentifier_void
  · have spelled : SpelledBy ⟨isAsync, parameters, .primitive .void⟩ _ :=
      .intro listed spelledBy_void
    simpa using spelled

/-- A signature can be continued where its return type can be. -/
theorem viable_of_returns (isAsync : Bool)
    (listed : Listing Parameter.SpelledBy parameters inside) {behind : List Token}
    (viable : Viable TypeExpr.SpelledBy behind) :
    Viable SpelledBy (Token.ifPresent (.word "async") isAsync ++
      .openParen :: inside ++ .closeParen :: .arrow :: behind) := by
  rcases viable with ⟨more, returns, words, spelled⟩
  have whole : SpelledBy ⟨isAsync, parameters, returns⟩ _ := .intro listed spelled
  exact ⟨more, _, words, by simpa using whole⟩

end Completions

end Signature

namespace Reader

/-! ## How readers get stuck -/

theorem bind_eq_error {ε α β : Type} {first : Except ε α} {next : α → Except ε β} {problem : ε} :
    (first >>= next) = .error problem ↔
      first = .error problem ∨ ∃ value, first = .ok value ∧ next value = .error problem := by
  cases first with
  | error other => simp [bind, Except.bind]
  | ok value => simp [bind, Except.bind]

theorem eq_of_exactly_eq_error {expected : Token} {tokens unread : List Token}
    (stuck : exactly expected tokens = .error unread) : tokens = unread := by
  cases tokens with
  | nil => exact Except.error.inj stuck
  | cons token rest =>
      by_cases same : token = expected
      · simp [exactly, same] at stuck
      · simpa [exactly, same] using stuck

/-- A list gets stuck in front of its opening mark, or behind items where it should close. -/
theorem enclosed_eq_error {α : Type} {opening closing : Token} {item : Reader α}
    {tokens unread : List Token} (stuck : enclosed opening closing item tokens = .error unread) :
    tokens = unread ∨
      ∃ inside values, tokens = opening :: inside ∧ items item inside = (values, unread) := by
  rcases bind_eq_error.mp stuck with unopened | ⟨⟨done, inside⟩, opened, stuck⟩
  · exact Or.inl (eq_of_exactly_eq_error unopened)
  · rcases bind_eq_error.mp stuck with unclosed | ⟨_, _, finished⟩
    · have behind : (items item inside).2 = unread := eq_of_exactly_eq_error unclosed
      exact Or.inr ⟨inside, (items item inside).1, exactly_eq_ok.mp opened, Prod.ext rfl behind⟩
    · cases finished

variable {type : Reader TypeExpr}

theorem signature_eq_error {tokens unread : List Token}
    (stuck : Reader.signature type tokens = .error unread) :
    ∃ isAsync front, marked (.word "async") tokens = (isAsync, front) ∧
      (enclosed .openParen .closeParen (parameter type) front = .error unread ∨
        ∃ parameters behind,
          enclosed .openParen .closeParen (parameter type) front = .ok (parameters, behind) ∧
          (behind = unread ∨ ∃ rest, behind = .arrow :: rest ∧ type rest = .error unread)) := by
  refine ⟨_, _, rfl, ?_⟩
  rcases bind_eq_error.mp stuck with unlisted | ⟨⟨parameters, behind⟩, listed, stuck⟩
  · exact Or.inl unlisted
  · refine Or.inr ⟨parameters, behind, listed, ?_⟩
    rcases bind_eq_error.mp stuck with noArrow | ⟨⟨done, rest⟩, arrow, stuck⟩
    · exact Or.inl (eq_of_exactly_eq_error noArrow)
    · rcases bind_eq_error.mp stuck with noType | ⟨_, _, finished⟩
      · exact Or.inr ⟨rest, exactly_eq_ok.mp arrow, noType⟩
      · cases finished

/-- A type gets stuck where a signature would, because that is the alternative tried last. -/
theorem signature_of_primary_eq_error {tokens unread : List Token}
    (stuck : primary type tokens = .error unread) :
    Reader.signature type tokens = .error unread := by
  unfold primary at stuck
  repeat' split at stuck
  all_goals try cases stuck
  rcases bind_eq_error.mp stuck with failed | ⟨_, _, finished⟩
  · exact failed
  · cases finished

/-! ## What is used can be continued -/

/-- Where the reader gets stuck, what it has used can be continued to something spelled. -/
def StopsViably {α : Type} (reader : Reader α) (Spelled : α → List Token → Prop) : Prop :=
  ∀ ⦃tokens unread : List Token⦄, reader tokens = .error unread →
    ∃ used, tokens = used ++ unread ∧ Viable Spelled used

theorem signature_stopsViably (sound : Sound type TypeExpr.SpelledBy)
    (stops : StopsViably type TypeExpr.SpelledBy) :
    StopsViably (Reader.signature type) Signature.SpelledBy := by
  intro tokens unread stuck
  rcases signature_eq_error stuck with ⟨isAsync, front, async, unlisted | listed⟩
  · rcases enclosed_eq_error unlisted with rfl | ⟨inside, values, rfl, read⟩
    · exact ⟨_, eq_ifPresent_append_of_marked async, Signature.viable_of_front isAsync⟩
    · rcases listing_of_items (parameter_sound sound) read with ⟨used, rfl, listing⟩
      refine ⟨_, ?_, Signature.viable_of_parameters isAsync listing⟩
      simpa using eq_ifPresent_append_of_marked async
  · rcases listed with ⟨parameters, behind, listed, missing⟩
    rcases listing_of_enclosed (parameter_sound sound) listed with ⟨inside, rfl, listing⟩
    rcases missing with rfl | ⟨rest, rfl, failed⟩
    · refine ⟨_, ?_, Signature.viable_of_closed isAsync listing⟩
      simpa using eq_ifPresent_append_of_marked async
    · rcases stops failed with ⟨used, rfl, viable⟩
      refine ⟨_, ?_, Signature.viable_of_returns isAsync listing viable⟩
      simpa using eq_ifPresent_append_of_marked async

theorem type_stopsViably (depth : Nat) : StopsViably (Reader.type depth) TypeExpr.SpelledBy := by
  induction depth with
  | zero =>
      intro tokens unread stuck
      refine ⟨[], Except.error.inj stuck, [.word "void"], .primitive .void, ?_, spelledBy_void⟩
      simpa using isIdentifier_void
  | succ depth ih =>
      intro tokens unread stuck
      rcases bind_eq_error.mp stuck with failed | ⟨_, _, finished⟩
      · rcases signature_stopsViably (type_sound depth).sound ih
          (signature_of_primary_eq_error failed) with ⟨used, split, more, signature, words, spelled⟩
        exact ⟨used, split, more, .function signature, words, .function spelled⟩
      · cases finished

end Reader

/-- Where tokens are no signature, those that could be used can be continued to one. -/
theorem Signature.viable_of_ofTokens_eq_error {tokens unread : List Token}
    (stuck : Signature.ofTokens tokens = .error unread) :
    ∃ used, tokens = used ++ unread ∧ Viable Signature.SpelledBy used := by
  have sound := (Reader.type_sound tokens.length).sound
  rcases Reader.bind_eq_error.mp stuck with failed | ⟨⟨signature, rest⟩, read, surplus⟩
  · exact Reader.signature_stopsViably sound (Reader.type_stopsViably _) failed
  · rcases Reader.signature_sound sound read with ⟨used, split, spelled⟩
    have same : rest = unread := by
      cases rest with
      | nil => cases surplus
      | cons token rest => exact Except.error.inj surplus
    refine ⟨used, same ▸ split, [], signature, by simp, ?_⟩
    rwa [List.append_nil]

/-! ## Where tokens stand in a text -/

namespace Lexeme

theorem byteLength_eq (characters : List Char) :
    byteLength characters = (String.ofList characters).utf8ByteSize := by
  have counted (size : Nat) :
      characters.foldl (fun length character => length + character.utf8Size) size =
        size + (String.ofList characters).utf8ByteSize := by
    induction characters generalizing size with
    | nil => simp
    | cons character characters ih =>
        rw [List.foldl_cons, ih, String.ofList_cons, String.utf8ByteSize_append,
          String.utf8ByteSize_singleton, Nat.add_assoc]
  simpa [byteLength] using counted 0

theorem byteLength_append (front rest : List Char) :
    byteLength (front ++ rest) = byteLength front + byteLength rest := by
  simp [byteLength_eq, String.ofList_append]

theorem firstChar_ofMark (character : Char) : (Token.ofMark character).firstChar = character := by
  unfold Token.ofMark
  repeat' split
  all_goals simp_all [Token.firstChar]

/-- The lexeme stands among these characters, the first of which is at byte `start` of the text,
and those in front of it can be cut into these tokens. -/
def StandsBehind (lexeme : Lexeme) (tokens : List Token) (start : Nat) (characters : List Char) :
    Prop :=
  ∃ front rest, characters = front ++ lexeme.token.firstChar :: rest ∧
    lexeme.start = start + byteLength front ∧ Tokenizes front tokens

/-- Further characters in front are cut off. -/
theorem StandsBehind.further {lexeme : Lexeme} {tokens more : List Token} {start : Nat}
    {chunk characters : List Char}
    (stands : lexeme.StandsBehind tokens (start + byteLength chunk) characters)
    (cuts : ∀ front, front <+: characters → Tokenizes front tokens →
      Tokenizes (chunk ++ front) more) :
    lexeme.StandsBehind more start (chunk ++ characters) := by
  rcases stands with ⟨front, rest, rfl, starts, tokenizes⟩
  refine ⟨chunk ++ front, rest, (List.append_assoc _ _ _).symm, ?_, ?_⟩
  · rw [starts, byteLength_append, Nat.add_assoc]
  · exact cuts front (List.prefix_append _ _) tokenizes

/-- The lexeme is the first one, or it stands behind the characters of the first one. -/
theorem standsBehind_of_first {lexeme : Lexeme} {earlier found later : List Lexeme} {token : Token}
    {start : Nat} {character : Char} {others characters : List Char}
    (split : ⟨token, start⟩ :: found = earlier ++ lexeme :: later)
    (clean : ∀ character, .stray character ∉ earlier.map Lexeme.token)
    (opens : token.firstChar = character)
    (cuts : (∀ character, token ≠ .stray character) → ∀ front tokens, front <+: characters →
      Tokenizes front tokens → Tokenizes (character :: others ++ front) (token :: tokens))
    (behind : ∀ {earlier : List Lexeme}, found = earlier ++ lexeme :: later →
      (∀ character, .stray character ∉ earlier.map Lexeme.token) →
      lexeme.StandsBehind (earlier.map Lexeme.token) (start + byteLength (character :: others))
        characters) :
    lexeme.StandsBehind (earlier.map Lexeme.token) start (character :: others ++ characters) := by
  cases earlier with
  | nil =>
      obtain ⟨rfl, rfl⟩ := List.cons.inj split
      exact ⟨[], others ++ characters, by rw [opens]; rfl, rfl, .nil⟩
  | cons first earlier =>
      obtain ⟨rfl, rfl⟩ := List.cons.inj split
      rw [List.map_cons] at clean ⊢
      have notStray : ∀ character, token ≠ .stray character := by
        rintro character rfl
        exact clean character List.mem_cons_self
      have stands := behind rfl fun character member =>
        clean character (List.mem_cons_of_mem _ member)
      exact stands.further fun front isFront => cuts notStray front _ isFront

/-- In front of a token that is found stands what the tokens before it are found in. -/
theorem standsBehind_of_scan {start : Nat} {characters : List Char} {earlier later : List Lexeme}
    {lexeme : Lexeme} (found : scan start characters = earlier ++ lexeme :: later)
    (clean : ∀ character, .stray character ∉ earlier.map token) :
    lexeme.StandsBehind (earlier.map token) start characters := by
  fun_induction scan start characters generalizing earlier with
  | case1 => simp at found
  | case2 start rest ih =>
      have cuts (front : List Char) (tokens : List Token) (tokenizes : Tokenizes front tokens) :
          Tokenizes ('=' :: ['>'] ++ front) (.arrow :: tokens) :=
        .mark rfl tokenizes
      exact standsBehind_of_first found clean rfl (fun _ front tokens _ => cuts front tokens) ih
  | case3 start character rest _ isBlank ih =>
      have size : byteLength [character] = character.utf8Size := by simp [byteLength]
      have stands := ih found clean
      rw [← size] at stands
      exact stands.further fun front _ => .blank isBlank
  | case4 start character rest _ _ starts =>
      rename_i ih
      have opens : (Token.word (String.ofList
          (character :: rest.takeWhile Token.isWordPart))).firstChar = character := by
        simp [Token.firstChar]
      have stands := standsBehind_of_first found clean opens ?_ ih
      · rw [List.cons_append, List.takeWhile_append_dropWhile] at stands
        exact stands
      intro _ front tokens isFront tokenizes
      have goesOn : ∀ part ∈ rest.takeWhile Token.isWordPart, Token.isWordPart part :=
        List.all_eq_true.mp List.all_takeWhile
      refine .word starts goesOn ?_ tokenizes
      intro part isHead
      have stops := List.head?_dropWhile_not Token.isWordPart rest
      rcases isFront with ⟨behind, same⟩
      rw [← same, List.head?_append, isHead] at stops
      exact stops
  | case5 start character rest _ _ _ ih =>
      have size : byteLength [character] = character.utf8Size := by simp [byteLength]
      rw [← size] at found ih
      have cuts (notStray : ∀ other, Token.ofMark character ≠ .stray other) (front : List Char)
          (tokens : List Token) (tokenizes : Tokenizes front tokens) :
          Tokenizes (character :: [] ++ front) (Token.ofMark character :: tokens) := by
        rcases Token.markText?_ofMark character with isMark | isStray
        · exact .mark isMark tokenizes
        · exact absurd isStray (notStray character)
      exact standsBehind_of_first found clean (firstChar_ofMark character)
        (fun notStray front tokens _ => cuts notStray front tokens) ih

end Lexeme

/-! ## Continuing a text -/

/-- Tokens of which every word is an identifier and none is stray can be written behind a blank. -/
theorem exists_tokenizes {tokens : List Token}
    (noStray : ∀ character, Token.stray character ∉ tokens)
    (words : ∀ name, Token.word name ∈ tokens → Token.isIdentifier name) :
    ∃ written, Tokenizes (' ' :: written) tokens := by
  induction tokens with
  | nil => exact ⟨[], .blank (by decide) .nil⟩
  | cons token tokens ih =>
      simp only [List.mem_cons, not_or] at noStray
      rcases ih (fun character => (noStray character).2)
        (fun name member => words name (List.mem_cons_of_mem _ member)) with ⟨behind, tokenizes⟩
      have alone : ∃ written, Tokenizes written [token] := by
        cases token with
        | word name => exact ⟨_, .of_isIdentifier (words name List.mem_cons_self)⟩
        | stray character => exact absurd rfl (noStray character).1
        | _ => exact ⟨_, .mark rfl .nil⟩
      rcases alone with ⟨written, first⟩
      have apart : Apart written (' ' :: behind) := Or.inr (by simp [Token.isWordPart])
      exact ⟨written ++ ' ' :: behind, .blank (by decide) (first.append tokenizes apart)⟩

/-- A text whose tokens can be continued to a signature can itself be continued to one. -/
theorem Signature.exists_parse_append {front : String} {tokens : List Token}
    (tokenizes : Tokenizes front.toList tokens) (viable : Viable SpelledBy tokens) :
    ∃ continuation signature, parse (front ++ continuation) = .ok signature := by
  rcases viable with ⟨more, signature, words, spelled⟩
  have noStray : ∀ character, Token.stray character ∉ more := fun character member =>
    spelled.cleanly.noStray character (List.mem_append_right _ member)
  rcases exists_tokenizes noStray words with ⟨written, behind⟩
  have apart : Apart front.toList (' ' :: written) := Or.inr (by simp [Token.isWordPart])
  have whole := tokenizes.append behind apart
  refine ⟨String.ofList (' ' :: written), signature, ?_⟩
  rw [parse_eq_ok, ((Lexeme.tokenizes_iff _ _).mp ?_).1]
  · exact spelled
  · rw [String.toList_append, String.toList_ofList]
    exact whole

/-! ## The place that is reported -/

/-- The fault is at the place between two parts of a text. -/
structure SyntaxFault.LiesBetween (fault : SyntaxFault) (front rest : String) : Prop where
  offset : fault.offset = front.utf8ByteSize
  reason : (rest = "" ∧ fault.reason = "unexpected end of signature") ∨
    ∃ character behind, rest.toList = character :: behind ∧
      fault.reason = "unexpected `" ++ character.toString ++ "`"

/-- Tokens that cannot be used start where a text splits into two parts. -/
theorem SyntaxFault.liesBetween_of_unread {text : String} {used unread : List Token}
    (split : (Lexeme.ofText text).map Lexeme.token = used ++ unread)
    (clean : ∀ character, Token.stray character ∉ used) :
    ∃ front rest : String, text = front ++ rest ∧ Tokenizes front.toList used ∧
      (ofUnread text (Lexeme.ofText text) unread.length).LiesBetween front rest := by
  rcases List.map_eq_append_iff.mp split with ⟨earlier, later, found, rfl, rfl⟩
  cases later with
  | nil =>
      refine ⟨text, "", by simp, ?_, ?_, Or.inl ⟨rfl, ?_⟩⟩
      · rw [List.append_nil] at found
        rw [← found] at clean ⊢
        exact Lexeme.tokenizes_scan 0 text.toList clean
      · simp [ofUnread, found]
      · simp [ofUnread, found]
  | cons lexeme later =>
      rcases Lexeme.standsBehind_of_scan found clean with ⟨front, rest, same, starts, tokenizes⟩
      refine ⟨String.ofList front, String.ofList (lexeme.token.firstChar :: rest), ?_, ?_, ?_,
        Or.inr ⟨_, rest, String.toList_ofList, ?_⟩⟩
      · rw [← String.ofList_append, ← same, String.ofList_toList]
      · rwa [String.toList_ofList]
      · simp [ofUnread, found, starts, Lexeme.byteLength_eq]
      · simp [ofUnread, found]

/-- Only at the end of a text nothing is named. -/
theorem SyntaxFault.LiesBetween.reason_eq_iff {fault : SyntaxFault} {front rest : String}
    (lies : fault.LiesBetween front rest) :
    fault.reason = "unexpected end of signature" ↔ fault.offset = (front ++ rest).utf8ByteSize := by
  rw [lies.offset, String.utf8ByteSize_append]
  rcases lies.reason with ⟨rfl, reason⟩ | ⟨character, behind, letters, reason⟩
  · simp [reason]
  · have differs : fault.reason ≠ "unexpected end of signature" := by
      rw [reason]
      intro same
      simpa using congrArg String.toList same
    have nonempty : rest ≠ "" := by
      rintro rfl
      simp at letters
    have longer : rest.utf8ByteSize ≠ 0 := by simpa using nonempty
    simp only [differs, false_iff]
    omega

namespace Signature

/-- A fault reports the first of the tokens that cannot be used. -/
theorem parse_eq_error {text : String} {fault : SyntaxFault} :
    parse text = .error fault ↔
      ∃ unread, ofTokens ((Lexeme.ofText text).map Lexeme.token) = .error unread ∧
        SyntaxFault.ofUnread text (Lexeme.ofText text) unread.length = fault := by
  rw [parse]
  cases ofTokens ((Lexeme.ofText text).map Lexeme.token) <;> simp

/-- A text that is no signature splits at the place that is reported. The first character behind
that place is named, unless the text ends there, and the part in front can be continued to a text
that is accepted. -/
theorem parse_stops_behind_viable_prefix {text : String} {fault : SyntaxFault}
    (rejected : parse text = .error fault) :
    ∃ front rest : String, text = front ++ rest ∧ fault.offset = front.utf8ByteSize ∧
      fault.offset ≤ text.utf8ByteSize ∧ String.Pos.Raw.IsValid text ⟨fault.offset⟩ ∧
      (fault.reason = "unexpected end of signature" ↔ fault.offset = text.utf8ByteSize) ∧
      (fault.offset ≠ text.utf8ByteSize → ∃ character behind, rest.toList = character :: behind ∧
        fault.reason = "unexpected `" ++ character.toString ++ "`") ∧
      ∃ continuation signature, parse (front ++ continuation) = .ok signature := by
  rcases parse_eq_error.mp rejected with ⟨unread, stuck, reported⟩
  rcases viable_of_ofTokens_eq_error stuck with ⟨used, split, viable⟩
  have clean : ∀ character, Token.stray character ∉ used := by
    rcases viable with ⟨more, signature, _, spelled⟩
    exact fun character member => spelled.cleanly.noStray character (List.mem_append_left _ member)
  rcases SyntaxFault.liesBetween_of_unread split clean with ⟨front, rest, rfl, tokenizes, lies⟩
  rw [reported] at lies
  refine ⟨front, rest, rfl, lies.offset, ?_, ?_, lies.reason_eq_iff, ?_,
    exists_parse_append tokenizes viable⟩
  · rw [lies.offset, String.utf8ByteSize_append]
    exact Nat.le_add_right _ _
  · rw [String.Pos.Raw.isValid_iff_exists_append]
    exact ⟨front, rest, rfl, by rw [lies.offset]; rfl⟩
  · intro inside
    rcases lies.reason with ⟨rfl, _⟩ | named
    · simp [lies.offset] at inside
    · exact named

/-- The second parameter in a return type is no type, so its list ends in front of the comma, behind
a tab; what stands in front of the comma can be continued. -/
theorem parse_stops_behind_viable_prefix_of_comma :
    ∃ front rest : String, "async (a?: null) => (Promise<[]>[]\t,é) => void" = front ++ rest ∧
      front.utf8ByteSize = 35 ∧ (∃ behind, rest.toList = ',' :: behind) ∧
      ∃ continuation signature, parse (front ++ continuation) = .ok signature := by
  have rejected : parse "async (a?: null) => (Promise<[]>[]\t,é) => void" =
      .error ⟨"async (a?: null) => (Promise<[]>[]\t,é) => void", 35, "unexpected `,`"⟩ := by cbv
  rcases parse_stops_behind_viable_prefix rejected with
    ⟨front, rest, split, offset, _, _, _, named, continued⟩
  rcases named (by decide +kernel) with ⟨character, behind, letters, reason⟩
  have same : character = ',' := by
    have spelled := congrArg String.toList reason
    simpa using spelled.symm
  exact ⟨front, rest, split, offset.symm, ⟨behind, same ▸ letters⟩, continued⟩

end Signature

end CallContracts
