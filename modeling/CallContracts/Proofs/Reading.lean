import CallContracts.Proofs.Grammar
import CallContracts.Signature.Parser

/-!
# Reading what the grammar spells

The readers of signatures decide the grammar: `Signature.ofTokens` reads a signature from exactly
the tokens that spell it. One direction says that whatever a reader uses spells what it returns. The
other says that a reader finds what is spelled in front of it; there the alternatives that are tried
first have to fail, and lists have to end where they should.

In both directions a type ends in front of anything but an array suffix, since a suffix would have
been read as well.
-/

namespace CallContracts

namespace Reader

/-! ## What the readers read -/

theorem bind_eq_ok {ε α β : Type} {first : Except ε α} {next : α → Except ε β} {result : β} :
    (first >>= next) = .ok result ↔ ∃ value, first = .ok value ∧ next value = .ok result := by
  cases first with
  | error problem => simp [bind, Except.bind]
  | ok value => simp [bind, Except.bind]

theorem exactly_eq_ok {expected : Token} {tokens rest : List Token} {done : Unit} :
    exactly expected tokens = .ok (done, rest) ↔ tokens = expected :: rest := by
  cases tokens with
  | nil => simp [exactly]
  | cons token behind =>
      by_cases same : token = expected
      · simp [exactly, same]
      · simp [exactly, same]

/-- What is consumed of an optional mark is the mark, if it is present. -/
theorem eq_ifPresent_append_of_marked {mark : Token} {tokens rest : List Token} {present : Bool}
    (read : marked mark tokens = (present, rest)) :
    tokens = mark.ifPresent present ++ rest := by
  cases tokens with
  | nil =>
      simp only [marked, Prod.mk.injEq] at read
      rw [← read.1, ← read.2]
      rfl
  | cons token behind =>
      by_cases same : token = mark
      · simp only [marked, same, if_true, Prod.mk.injEq] at read
        rw [← read.1, ← read.2, same]
        rfl
      · simp only [marked, same, if_false, Prod.mk.injEq] at read
        rw [← read.1, ← read.2]
        rfl

/-- An optional mark is found if no second one follows. -/
theorem marked_ifPresent_append {mark : Token} {rest : List Token} (present : Bool)
    (noSecond : rest.head? ≠ some mark) :
    marked mark (mark.ifPresent present ++ rest) = (present, rest) := by
  cases present with
  | true => simp [Token.ifPresent, marked]
  | false =>
      cases rest with
      | nil => rfl
      | cons token behind =>
          have differs : token ≠ mark := by simpa using noSecond
          simp [Token.ifPresent, marked, differs]

theorem enclosed_eq_ok {α : Type} {opening closing : Token} {item : Reader α}
    {tokens rest : List Token} {values : List α} :
    enclosed opening closing item tokens = .ok (values, rest) ↔
      ∃ inside, tokens = opening :: inside ∧ items item inside = (values, closing :: rest) := by
  simp only [enclosed, bind_eq_ok, Prod.exists, exactly_eq_ok, pure, Except.pure, Except.ok.injEq,
    Prod.mk.injEq]
  constructor
  · rintro ⟨_, inside, rfl, _, behind, closes, same, rfl⟩
    exact ⟨inside, rfl, Prod.ext same closes⟩
  · rintro ⟨inside, rfl, read⟩
    exact ⟨(), inside, rfl, (), rest, by rw [read], by rw [read], rfl⟩

theorem namedParameter_eq_ok {type : Reader TypeExpr} {tokens rest : List Token}
    {parameter : Parameter} :
    namedParameter type tokens = .ok (parameter, rest) ↔
      ∃ name optional written behind inner, tokens = .word name :: behind ∧
        marked .question behind = (optional, .colon :: inner) ∧
        type inner = .ok (written, rest) ∧ parameter = ⟨some name, optional, written⟩ := by
  cases tokens with
  | nil => simp [namedParameter]
  | cons token behind =>
      cases token with
      | word name =>
          simp only [namedParameter, bind_eq_ok, Prod.exists, exactly_eq_ok, pure, Except.pure,
            Except.ok.injEq, Prod.mk.injEq, List.cons.injEq, Token.word.injEq]
          constructor
          · rintro ⟨_, inner, colon, written, _, read, rfl, rfl⟩
            exact ⟨name, _, written, behind, inner, ⟨rfl, rfl⟩, Prod.ext rfl colon, read, rfl⟩
          · rintro ⟨_, optional, written, _, inner, ⟨rfl, rfl⟩, labelled, read, rfl⟩
            exact ⟨(), inner, by rw [labelled], written, rest, read, by rw [labelled], rfl⟩
      | _ => simp [namedParameter]

theorem bareParameter_eq_ok {type : Reader TypeExpr} {tokens rest : List Token}
    {parameter : Parameter} :
    bareParameter type tokens = .ok (parameter, rest) ↔
      ∃ optional written behind, type tokens = .ok (written, behind) ∧
        marked .question behind = (optional, rest) ∧ parameter = ⟨none, optional, written⟩ := by
  simp only [bareParameter, bind_eq_ok, Prod.exists, pure, Except.pure, Except.ok.injEq,
    Prod.mk.injEq]
  constructor
  · rintro ⟨written, behind, read, rfl, rfl⟩
    exact ⟨_, written, behind, read, rfl, rfl⟩
  · rintro ⟨optional, written, behind, read, question, rfl⟩
    exact ⟨written, behind, read, by rw [question], by rw [question]⟩

theorem signature_eq_ok {type : Reader TypeExpr} {tokens rest : List Token}
    {signature : Signature} :
    Reader.signature type tokens = .ok (signature, rest) ↔
      ∃ isAsync parameters returns front behind,
        marked (.word "async") tokens = (isAsync, front) ∧
        enclosed .openParen .closeParen (parameter type) front =
          .ok (parameters, .arrow :: behind) ∧
        type behind = .ok (returns, rest) ∧ signature = ⟨isAsync, parameters, returns⟩ := by
  simp only [Reader.signature, bind_eq_ok, Prod.exists, exactly_eq_ok, pure, Except.pure,
    Except.ok.injEq, Prod.mk.injEq]
  constructor
  · rintro ⟨parameters, _, listed, _, behind, rfl, returns, _, read, rfl, rfl⟩
    exact ⟨_, parameters, returns, _, behind, rfl, listed, read, rfl⟩
  · rintro ⟨isAsync, parameters, returns, front, behind, async, listed, read, rfl⟩
    refine ⟨parameters, _, ?_, (), behind, rfl, returns, rest, read, ?_, rfl⟩
    · rw [async]
      exact listed
    · rw [async]

theorem applied_eq_ok {name : String} {type : Reader TypeExpr} {tokens rest : List Token}
    {argument : TypeExpr} :
    applied name type tokens = .ok (argument, rest) ↔
      ∃ inner, tokens = .word name :: .openAngle :: inner ∧
        type inner = .ok (argument, .closeAngle :: rest) := by
  simp only [applied, bind_eq_ok, Prod.exists, exactly_eq_ok, pure, Except.pure, Except.ok.injEq,
    Prod.mk.injEq]
  constructor
  · rintro ⟨_, _, rfl, _, inner, rfl, _, _, read, _, _, rfl, rfl, rfl⟩
    exact ⟨inner, rfl, read⟩
  · rintro ⟨inner, rfl, read⟩
    exact ⟨(), _, rfl, (), inner, rfl, argument, _, read, (), rest, rfl, rfl, rfl⟩

theorem primitive_eq_ok {tokens rest : List Token} {kind : Primitive} :
    primitive tokens = .ok (kind, rest) ↔
      ∃ name, tokens = .word name :: rest ∧ Primitive.ofKeyword? name = some kind := by
  cases tokens with
  | nil => simp [primitive]
  | cons token behind =>
      cases token with
      | word name =>
          cases found : Primitive.ofKeyword? name with
          | none => simp [primitive, found]
          | some other =>
              simp only [primitive, found, Except.ok.injEq, Prod.mk.injEq, List.cons.injEq,
                Token.word.injEq]
              constructor
              · rintro ⟨rfl, rfl⟩
                exact ⟨name, ⟨rfl, rfl⟩, found⟩
              · rintro ⟨_, ⟨rfl, rfl⟩, other⟩
                rw [found] at other
                exact ⟨Option.some.inj other, rfl⟩
      | _ => simp [primitive]

/-! ## What is used spells what is returned -/

/-- What the reader uses spells the value it returns. -/
def Sound {α : Type} (reader : Reader α) (Spelled : α → List Token → Prop) : Prop :=
  ∀ ⦃tokens : List Token⦄ ⦃value : α⦄ ⦃rest : List Token⦄, reader tokens = .ok (value, rest) →
    ∃ used, tokens = used ++ rest ∧ Spelled value used

/-- No array suffix stands in front. -/
def NoSuffix (tokens : List Token) : Prop :=
  ∀ behind, tokens ≠ .openBracket :: .closeBracket :: behind

/-- The reader returns types that the tokens it uses spell, and leaves no suffix behind one. -/
structure SoundForTypes (type : Reader TypeExpr) : Prop where
  sound : Sound type TypeExpr.SpelledBy
  stops {tokens : List Token} {written : TypeExpr} {rest : List Token} :
    type tokens = .ok (written, rest) → NoSuffix rest

section Lists

variable {α : Type} {item : Reader α} {Spelled : α → List Token → Prop}

theorem followUps_of_moreItems (sound : Sound item Spelled) {bound : Nat}
    {tokens rest : List Token} {values : List α}
    (read : moreItems item bound tokens = (values, rest)) :
    ∃ used, tokens = used ++ rest ∧ FollowUps Spelled values used := by
  fun_induction moreItems item bound tokens generalizing values rest with
  | case2 bound behind stuck failed =>
      obtain ⟨rfl, rfl⟩ := Prod.mk.inj read
      exact ⟨[], rfl, .nil⟩
  | case3 bound tokens value behind first others last readOthers ih =>
      obtain ⟨rfl, rfl⟩ := Prod.mk.inj read
      rcases sound first with ⟨front, rfl, spelled⟩
      rcases ih readOthers with ⟨used, rfl, followUps⟩
      exact ⟨.comma :: front ++ used, by simp, .cons spelled followUps⟩
  | _ =>
      obtain ⟨rfl, rfl⟩ := Prod.mk.inj read
      exact ⟨[], rfl, .nil⟩

theorem listing_of_items (sound : Sound item Spelled) {tokens rest : List Token}
    {values : List α} (read : items item tokens = (values, rest)) :
    ∃ used, tokens = used ++ rest ∧ Listing Spelled values used := by
  unfold items at read
  split at read
  case h_1 =>
    obtain ⟨rfl, rfl⟩ := Prod.mk.inj read
    exact ⟨[], rfl, .nil⟩
  case h_2 value behind first =>
    obtain ⟨rfl, rfl⟩ := Prod.mk.inj read
    rcases sound first with ⟨front, rfl, spelled⟩
    rcases followUps_of_moreItems sound rfl with ⟨used, same, followUps⟩
    exact ⟨front ++ used, by rw [List.append_assoc, ← same], .cons spelled followUps⟩

theorem listing_of_enclosed (sound : Sound item Spelled) {opening closing : Token}
    {tokens rest : List Token} {values : List α}
    (read : enclosed opening closing item tokens = .ok (values, rest)) :
    ∃ inside, tokens = opening :: inside ++ closing :: rest ∧
      Listing Spelled values inside := by
  rcases enclosed_eq_ok.mp read with ⟨inside, rfl, readItems⟩
  rcases listing_of_items sound readItems with ⟨used, rfl, listed⟩
  exact ⟨used, rfl, listed⟩

end Lists

section Types

variable {type : Reader TypeExpr}

theorem parameter_sound (sound : Sound type TypeExpr.SpelledBy) :
    Sound (parameter type) Parameter.SpelledBy := by
  intro tokens value rest read
  unfold parameter at read
  split at read
  case h_1 result named =>
    rw [Except.ok.inj read] at named
    rcases namedParameter_eq_ok.mp named with
      ⟨name, optional, written, behind, inner, rfl, labelled, readType, rfl⟩
    rcases sound readType with ⟨used, rfl, spelled⟩
    rw [eq_ifPresent_append_of_marked labelled]
    exact ⟨_, by simp, .named spelled⟩
  case h_2 =>
    rcases bareParameter_eq_ok.mp read with ⟨optional, written, behind, readType, question, rfl⟩
    rcases sound readType with ⟨used, rfl, spelled⟩
    rw [eq_ifPresent_append_of_marked question]
    exact ⟨_, (List.append_assoc _ _ _).symm, .bare spelled⟩

theorem signature_sound (sound : Sound type TypeExpr.SpelledBy) :
    Sound (Reader.signature type) Signature.SpelledBy := by
  intro tokens value rest read
  rcases signature_eq_ok.mp read with
    ⟨isAsync, parameters, returns, front, behind, async, listed, readType, rfl⟩
  rcases listing_of_enclosed (parameter_sound sound) listed with ⟨inside, rfl, listing⟩
  rcases sound readType with ⟨used, rfl, spelled⟩
  rw [eq_ifPresent_append_of_marked async]
  exact ⟨_, by simp, .intro listing spelled⟩

/-- What is read without its suffixes is an atom or a signature. -/
theorem atom_or_signature_of_primary (sound : Sound type TypeExpr.SpelledBy)
    {tokens rest : List Token} {base : TypeExpr} (read : primary type tokens = .ok (base, rest)) :
    (∃ used, tokens = used ++ rest ∧ base.AtomBy used) ∨
      ∃ signature, base = .function signature ∧
        Reader.signature type tokens = .ok (signature, rest) := by
  unfold primary at read
  split at read
  case h_1 kind behind isKeyword =>
    obtain ⟨rfl, rfl⟩ := Prod.mk.inj (Except.ok.inj read)
    rcases primitive_eq_ok.mp isKeyword with ⟨name, rfl, found⟩
    rw [← Primitive.keyword_of_ofKeyword? found]
    exact Or.inl ⟨_, rfl, .keyword kind⟩
  split at read
  case h_1 elements behind isTuple =>
    obtain ⟨rfl, rfl⟩ := Prod.mk.inj (Except.ok.inj read)
    rcases listing_of_enclosed sound isTuple with ⟨inside, rfl, listed⟩
    exact Or.inl ⟨_, by simp, .tuple listed⟩
  split at read
  case h_1 inner behind isPromise =>
    obtain ⟨rfl, rfl⟩ := Prod.mk.inj (Except.ok.inj read)
    rcases applied_eq_ok.mp isPromise with ⟨inside, rfl, readType⟩
    rcases sound readType with ⟨used, rfl, spelled⟩
    exact Or.inl ⟨_, by simp, .promise spelled⟩
  split at read
  case h_1 element behind isArray =>
    obtain ⟨rfl, rfl⟩ := Prod.mk.inj (Except.ok.inj read)
    rcases applied_eq_ok.mp isArray with ⟨inside, rfl, readType⟩
    rcases sound readType with ⟨used, rfl, spelled⟩
    exact Or.inl ⟨_, by simp, .array spelled⟩
  case h_2 =>
    rcases bind_eq_ok.mp read with ⟨⟨signature, behind⟩, readSignature, same⟩
    obtain ⟨rfl, rfl⟩ := Prod.mk.inj (Except.ok.inj same)
    exact Or.inr ⟨signature, rfl, readSignature⟩

end Types

/-! ## Suffixes -/

theorem suffixed_of_noSuffix {base : TypeExpr} {tokens : List Token} (noSuffix : NoSuffix tokens) :
    suffixed base tokens = (base, tokens) := by
  unfold suffixed
  split
  · rename_i behind
    exact absurd rfl (noSuffix behind)
  · rfl

theorem noSuffix_suffixed (base : TypeExpr) (tokens : List Token) :
    NoSuffix (suffixed base tokens).2 := by
  fun_induction suffixed base tokens with
  | case1 base behind ih => exact ih
  | case2 base tokens other => exact other

theorem suffixedBy_suffixed {base : TypeExpr} {used : List Token} (tokens : List Token)
    (spelled : base.SuffixedBy used) :
    ∃ suffixes, tokens = suffixes ++ (suffixed base tokens).2 ∧
      (suffixed base tokens).1.SuffixedBy (used ++ suffixes) := by
  fun_induction suffixed base tokens generalizing used with
  | case1 base behind ih =>
      rcases ih (.array spelled) with ⟨suffixes, same, suffixed⟩
      refine ⟨.openBracket :: .closeBracket :: suffixes, ?_, ?_⟩
      · rw [List.cons_append, List.cons_append, ← same]
      · simpa using suffixed
  | case2 base tokens other => exact ⟨[], rfl, by simpa using spelled⟩

/-- What a reader of types returns is spelled by the tokens it used, at every depth. -/
theorem type_sound (depth : Nat) : SoundForTypes (type depth) := by
  induction depth with
  | zero => exact ⟨by simp [Sound, type], by simp [type]⟩
  | succ depth ih =>
      refine ⟨?_, ?_⟩
      · intro tokens written rest read
        rcases bind_eq_ok.mp read with ⟨⟨base, behind⟩, readBase, same⟩
        have suffixes : suffixed base behind = (written, rest) := Except.ok.inj same
        rcases atom_or_signature_of_primary ih.sound readBase with
          ⟨used, rfl, spelled⟩ | ⟨signature, rfl, readSignature⟩
        · rcases suffixedBy_suffixed behind (.atom spelled) with ⟨more, split, suffixed⟩
          rw [suffixes] at split suffixed
          exact ⟨used ++ more, by rw [split, List.append_assoc], .suffixed suffixed⟩
        · -- The return type of a signature has taken all suffixes there are.
          have stops : NoSuffix behind := by
            rcases signature_eq_ok.mp readSignature with ⟨_, _, _, _, _, _, _, readType, _⟩
            exact ih.stops readType
          rw [suffixed_of_noSuffix stops] at suffixes
          obtain ⟨rfl, rfl⟩ := Prod.mk.inj suffixes
          rcases signature_sound ih.sound readSignature with ⟨used, rfl, spelled⟩
          exact ⟨used, rfl, .function spelled⟩
      · intro tokens written rest read
        rcases bind_eq_ok.mp read with ⟨⟨base, behind⟩, readBase, same⟩
        have suffixes : suffixed base behind = (written, rest) := Except.ok.inj same
        have stops := noSuffix_suffixed base behind
        rw [suffixes] at stops
        exact stops

end Reader

end CallContracts
