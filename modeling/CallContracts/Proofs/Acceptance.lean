import CallContracts.Proofs.Scanning
import CallContracts.Proofs.Finding

/-!
# What texts are accepted

`Signature.parse` accepts the texts that can be cut into tokens that spell a signature, and it
returns the signature that they spell.
-/

namespace CallContracts

namespace Signature

/-- A signature is parsed from exactly the texts whose tokens spell it. -/
theorem parse_eq_ok {text : String} {signature : Signature} :
    parse text = .ok signature ↔
      signature.SpelledBy ((Lexeme.ofText text).map Lexeme.token) := by
  rw [← ofTokens_eq_ok, parse]
  cases ofTokens ((Lexeme.ofText text).map Lexeme.token) <;> simp

/-- A text is accepted if and only if it can be cut into tokens that spell a signature, and then
that signature is returned. No text can be cut into tokens in two ways and no tokens spell two
signatures, so every text has at most one reading, and texts that differ only in the blanks between
their tokens are read alike. -/
theorem parse_decides_grammar (text : String) :
    (∀ signature, parse text = .ok signature ↔
      ∃ tokens, Tokenizes text.toList tokens ∧ signature.SpelledBy tokens) ∧
    (∀ (tokens otherTokens : List Token) (signature otherSignature : Signature),
      Tokenizes text.toList tokens → signature.SpelledBy tokens →
      Tokenizes text.toList otherTokens → otherSignature.SpelledBy otherTokens →
        tokens = otherTokens ∧ signature = otherSignature) ∧
    (∀ otherText tokens, Tokenizes text.toList tokens → Tokenizes otherText.toList tokens →
      ∀ signature, parse text = .ok signature ↔ parse otherText = .ok signature) := by
  refine ⟨?_, ?_, ?_⟩
  · intro signature
    rw [parse_eq_ok]
    constructor
    · intro spelled
      refine ⟨_, ?_, spelled⟩
      exact (Lexeme.tokenizes_iff text _).mpr ⟨rfl, spelled.cleanly.noStray⟩
    · rintro ⟨tokens, tokenizes, spelled⟩
      rw [((Lexeme.tokenizes_iff text tokens).mp tokenizes).1]
      exact spelled
  · intro tokens otherTokens signature otherSignature tokenizes spelled otherTokenizes otherSpelled
    have sameTokens : tokens = otherTokens := by
      rw [← ((Lexeme.tokenizes_iff text tokens).mp tokenizes).1,
        ((Lexeme.tokenizes_iff text otherTokens).mp otherTokenizes).1]
    refine ⟨sameTokens, ?_⟩
    have read := ofTokens_eq_ok.mpr spelled
    rw [sameTokens, ofTokens_eq_ok.mpr otherSpelled] at read
    exact (Except.ok.inj read).symm
  · intro otherText tokens tokenizes otherTokenizes signature
    rw [parse_eq_ok, parse_eq_ok, ((Lexeme.tokenizes_iff text tokens).mp tokenizes).1,
      ((Lexeme.tokenizes_iff otherText tokens).mp otherTokenizes).1]

/-- A signature whose parameter is called as a keyword, written with few blanks and with many. -/
theorem parse_decides_grammar_of_keyword_name :
    ∃ tokens, Tokenizes "(null?: void) => string[]".toList tokens ∧
      Tokenizes "( null ?:void )=>string [ ]\n".toList tokens ∧
      parse "(null?: void) => string[]" =
        .ok ⟨false, [⟨some "null", true, .primitive .void⟩], .array (.primitive .string)⟩ ∧
      parse "( null ?:void )=>string [ ]\n" =
        .ok ⟨false, [⟨some "null", true, .primitive .void⟩], .array (.primitive .string)⟩ := by
  have parameter : Parameter.SpelledBy ⟨some "null", true, .primitive .void⟩
      [.word "null", .question, .colon, .word "void"] :=
    .named (.suffixed (.atom (.keyword .void)))
  have parameters : Listing Parameter.SpelledBy [⟨some "null", true, .primitive .void⟩]
      [.word "null", .question, .colon, .word "void"] := .cons parameter .nil
  have returns : TypeExpr.SpelledBy (.array (.primitive .string))
      [.word "string", .openBracket, .closeBracket] :=
    .suffixed (.array (.atom (.keyword .string)))
  have spelled : Signature.SpelledBy
      ⟨false, [⟨some "null", true, .primitive .void⟩], .array (.primitive .string)⟩
      [.openParen, .word "null", .question, .colon, .word "void", .closeParen, .arrow,
        .word "string", .openBracket, .closeBracket] := .intro parameters returns
  have tokenizes : Tokenizes "(null?: void) => string[]".toList
      [.openParen, .word "null", .question, .colon, .word "void", .closeParen, .arrow,
        .word "string", .openBracket, .closeBracket] :=
    (Lexeme.tokenizes_iff _ _).mpr ⟨by decide +kernel, by simp⟩
  have otherTokenizes : Tokenizes "( null ?:void )=>string [ ]\n".toList
      [.openParen, .word "null", .question, .colon, .word "void", .closeParen, .arrow,
        .word "string", .openBracket, .closeBracket] :=
    (Lexeme.tokenizes_iff _ _).mpr ⟨by decide +kernel, by simp⟩
  have decides := parse_decides_grammar "(null?: void) => string[]"
  have accepted := (decides.1 _).mpr ⟨_, tokenizes, spelled⟩
  exact ⟨_, tokenizes, otherTokenizes, accepted,
    (decides.2.2 _ _ tokenizes otherTokenizes _).mp accepted⟩

end Signature

end CallContracts
