import CallContracts.Proofs.Grammar

/-!
# Cutting texts into tokens

`Lexeme.scan` finds the tokens of every text that has tokens, and a text has at most one list of
them. Where `scan` meets a stray character the text has no tokens at all.
-/

namespace CallContracts

namespace Token

/-- A character that is no blank and starts no word is a mark or stray. -/
theorem markText?_ofMark (character : Char) :
    (ofMark character).markText? = some [character] ∨ ofMark character = .stray character := by
  unfold ofMark
  repeat' split
  all_goals simp_all [markText?]

theorem isIdentifier_ofList {first : Char} {others : List Char} (starts : isWordStart first)
    (goesOn : ∀ character ∈ others, isWordPart character) :
    isIdentifier (String.ofList (first :: others)) := by
  simp only [isIdentifier, String.toList_ofList, Bool.and_eq_true, List.all_eq_true]
  exact ⟨starts, goesOn⟩

end Token

theorem Tokenizes.isIdentifier_of_word {characters : List Char} {tokens : List Token}
    (tokenizes : Tokenizes characters tokens) (name : String) (member : .word name ∈ tokens) :
    Token.isIdentifier name := by
  induction tokenizes with
  | nil => simp at member
  | blank _ _ ih => exact ih member
  | word starts goesOn _ _ ih =>
      rcases List.mem_cons.mp member with same | behind
      · rw [Token.word.inj same]
        exact Token.isIdentifier_ofList starts goesOn
      · exact ih behind
  | mark isMark _ ih =>
      rcases List.mem_cons.mp member with rfl | behind
      · simp [Token.markText?] at isMark
      · exact ih behind

theorem Tokenizes.noStray {characters : List Char} {tokens : List Token}
    (tokenizes : Tokenizes characters tokens) (character : Char) :
    Token.stray character ∉ tokens := by
  induction tokenizes with
  | nil => exact List.not_mem_nil
  | blank _ _ ih => exact ih
  | word _ _ _ _ ih => simpa using ih
  | mark isMark _ ih =>
      intro member
      rcases List.mem_cons.mp member with rfl | behind
      · simp [Token.markText?] at isMark
      · exact ih behind

namespace Lexeme

theorem takeWhile_append_of_ends {keep : Char → Bool} {inside rest : List Char}
    (goesOn : ∀ character ∈ inside, keep character)
    (ends : ∀ character ∈ rest.head?, keep character = false) :
    (inside ++ rest).takeWhile keep = inside ∧ (inside ++ rest).dropWhile keep = rest := by
  rw [List.takeWhile_append_of_pos goesOn, List.dropWhile_append_of_pos goesOn]
  cases rest with
  | nil => simp
  | cons first rest =>
      have stops : keep first = false := ends first rfl
      simp [stops]

/-- A text without stray characters is the tokens that are found in it. -/
theorem tokenizes_scan (start : Nat) (characters : List Char)
    (clean : ∀ character, .stray character ∉ (scan start characters).map token) :
    Tokenizes characters ((scan start characters).map token) := by
  fun_induction scan start characters with
  | case1 => exact .nil
  | case2 start rest ih =>
      have behind := ih fun character member => clean character (List.mem_cons_of_mem _ member)
      have isMark : Token.markText? .arrow = some ['=', '>'] := rfl
      exact .mark isMark behind
  | case3 start character rest _ isBlank ih => exact .blank isBlank (ih clean)
  | case4 start character rest _ _ starts name ih =>
      have behind := ih fun character member => clean character (List.mem_cons_of_mem _ member)
      have goesOn : ∀ part ∈ rest.takeWhile Token.isWordPart, Token.isWordPart part :=
        List.all_eq_true.mp (List.all_takeWhile)
      have ends : ∀ part ∈ (rest.dropWhile Token.isWordPart).head?,
          Token.isWordPart part = false := by
        intro part isHead
        have stops := List.head?_dropWhile_not Token.isWordPart rest
        rw [isHead] at stops
        exact stops
      have tokenizes := Tokenizes.word starts goesOn ends behind
      rw [List.cons_append, List.takeWhile_append_dropWhile] at tokenizes
      exact tokenizes
  | case5 start character rest _ _ _ ih =>
      have behind := ih fun character member => clean character (List.mem_cons_of_mem _ member)
      rcases Token.markText?_ofMark character with isMark | isStray
      · exact .mark isMark behind
      · exact absurd (by simp [isStray]) (clean character)

/-- What is found where no arrow stands. -/
theorem scan_cons {character : Char} (start : Nat) (rest : List Char) (noArrow : character ≠ '=') :
    scan start (character :: rest) =
      if Token.isBlank character then scan (start + character.utf8Size) rest
      else if Token.isWordStart character then
        ⟨.word (String.ofList (character :: rest.takeWhile Token.isWordPart)), start⟩ ::
          scan (start + byteLength (character :: rest.takeWhile Token.isWordPart))
            (rest.dropWhile Token.isWordPart)
      else ⟨.ofMark character, start⟩ :: scan (start + character.utf8Size) rest := by
  rw [scan]
  intro _ equals
  exact absurd equals noArrow

/-- The tokens of a text that has tokens are those that are found in it. -/
theorem scan_of_tokenizes {characters : List Char} {tokens : List Token}
    (tokenizes : Tokenizes characters tokens) (start : Nat) :
    (scan start characters).map token = tokens := by
  induction tokenizes generalizing start with
  | nil => simp [scan]
  | @blank character rest tokens isBlank behind ih =>
      have noArrow : character ≠ '=' := by
        rintro rfl
        simp [Token.isBlank] at isBlank
      rw [scan_cons start rest noArrow, if_pos isBlank]
      exact ih _
  | @word first others rest tokens starts goesOn ends behind ih =>
      have noArrow : first ≠ '=' := by
        rintro rfl
        exact absurd starts (by decide)
      have noBlank : ¬Token.isBlank first := by
        intro isBlank
        simp only [Token.isBlank, Bool.or_eq_true, decide_eq_true_eq] at isBlank
        rcases isBlank with ((rfl | rfl) | rfl) | rfl <;> exact absurd starts (by decide)
      rw [List.cons_append, scan_cons start _ noArrow, if_neg noBlank, if_pos starts]
      rw [(takeWhile_append_of_ends goesOn ends).1, (takeWhile_append_of_ends goesOn ends).2]
      rw [List.map_cons, ih]
  | @mark token characters rest tokens isMark behind ih =>
      cases token with
      | word name => simp [Token.markText?] at isMark
      | stray character => simp [Token.markText?] at isMark
      | arrow =>
          rw [← Option.some.inj isMark]
          simp [scan, ih]
      | _ =>
          rw [← Option.some.inj isMark, List.singleton_append, scan_cons start _ (by decide),
            if_neg (by decide), if_neg (by decide), List.map_cons, ih]
          rfl

/-- A text has at most one list of tokens, and it has one if no character in it is stray. -/
theorem tokenizes_iff (text : String) (tokens : List Token) :
    Tokenizes text.toList tokens ↔
      (ofText text).map token = tokens ∧ ∀ character, .stray character ∉ tokens := by
  constructor
  · intro tokenizes
    exact ⟨scan_of_tokenizes tokenizes 0, tokenizes.noStray⟩
  · rintro ⟨rfl, clean⟩
    exact tokenizes_scan 0 text.toList clean

end Lexeme

end CallContracts
