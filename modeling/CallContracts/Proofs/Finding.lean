import CallContracts.Proofs.Reading

/-!
# Finding what is spelled

The other direction of `Reading`: where tokens spell a signature, the readers find that signature
and nothing else. Three facts keep the ordered choices and the lists from going astray. A type never
opens with a token that closes a list, a word that opens a type is never labelled as a name is, and
none of the words in front of parentheses or angle brackets is a keyword.
-/

namespace CallContracts

namespace Reader

variable {type : Reader TypeExpr}

/-- Nothing is read in front of a token that no type opens with. -/
theorem type_fails (sound : Sound type TypeExpr.SpelledBy) {closing : Token}
    (noOpening : ∀ behind, ¬OpensType (closing :: behind)) (rest : List Token)
    (result : TypeExpr × List Token) : type (closing :: rest) ≠ .ok result := by
  intro read
  rcases sound read with ⟨used, same, spelled⟩
  have opens := spelled.opens
  cases used with
  | nil => cases opens
  | cons token used =>
      rw [List.cons_append, List.cons.injEq] at same
      rw [← same.1] at opens
      exact noOpening used opens

/-! ## Lists of items -/

section Lists

variable {α : Type}

/-- The tokens behind an item of a list: another item or the end of the list. -/
def EndsItem (closing : Token) (tokens : List Token) : Prop :=
  tokens.head? = some .comma ∨ tokens.head? = some closing

theorem EndsItem.noSuffix {closing : Token} {tokens : List Token}
    (ends : EndsItem closing tokens) (noBracket : closing ≠ .openBracket) : NoSuffix tokens := by
  rintro behind rfl
  rcases ends with comma | same
  · exact absurd (Option.some.inj comma) (by decide)
  · exact noBracket (Option.some.inj same).symm

theorem EndsItem.noQuestion {tokens : List Token} (ends : EndsItem .closeParen tokens) :
    tokens.head? ≠ some .question := by
  rcases ends with comma | closing
  · simp [comma]
  · simp [closing]

/-- The reader finds every item of at most `bound` tokens in a list that ends with `closing`. -/
def FindsItems (item : Reader α) (Spelled : α → List Token → Prop) (closing : Token)
    (bound : Nat) : Prop :=
  ∀ ⦃value : α⦄ ⦃used rest : List Token⦄, Spelled value used → used.length ≤ bound →
    EndsItem closing rest → item (used ++ rest) = .ok (value, rest)

variable {item : Reader α} {Spelled : α → List Token → Prop} {closing : Token} {bound : Nat}

theorem endsItem_of_followUps {values : List α} {inside : List Token}
    (listed : FollowUps Spelled values inside) (rest : List Token) :
    EndsItem closing (inside ++ closing :: rest) := by
  cases listed with
  | nil => exact Or.inr rfl
  | cons first others => exact Or.inl rfl

theorem moreItems_of_followUps (finds : FindsItems item Spelled closing bound)
    (noComma : closing ≠ .comma) {values : List α} {inside : List Token}
    (listed : FollowUps Spelled values inside) (short : inside.length ≤ bound) {steps : Nat}
    (enough : inside.length ≤ steps) (rest : List Token) :
    moreItems item steps (inside ++ closing :: rest) = (values, closing :: rest) := by
  induction listed generalizing steps with
  | nil =>
      cases steps with
      | zero => rfl
      | succ steps =>
          rw [List.nil_append, moreItems]
          intro behind same
          exact noComma (List.cons.inj same).1
  | @cons value values tokens behind first others ih =>
      simp only [List.length_cons, List.cons_append, List.length_append] at short enough
      cases steps with
      | zero => omega
      | succ steps =>
          have found := finds first (by omega) (endsItem_of_followUps others rest)
          have foundOthers : moreItems item steps (behind ++ closing :: rest) =
              (values, closing :: rest) := ih (by omega) (by omega)
          simp only [List.cons_append, List.append_assoc, moreItems, found, foundOthers]

/-- The items of a list are found up to the token that closes it. -/
theorem items_of_listing (finds : FindsItems item Spelled closing bound)
    (noComma : closing ≠ .comma)
    (fails : ∀ rest result, item (closing :: rest) ≠ .ok result) {values : List α}
    {inside : List Token} (listed : Listing Spelled values inside)
    (short : inside.length ≤ bound) (rest : List Token) :
    items item (inside ++ closing :: rest) = (values, closing :: rest) := by
  cases listed with
  | nil =>
      rw [List.nil_append, items]
      split
      · rfl
      · rename_i value behind read
        exact absurd read (fails rest _)
  | @cons value values tokens behind first others =>
      rw [List.length_append] at short
      have found := finds first (by omega) (endsItem_of_followUps others rest)
      have enough : behind.length ≤ (behind ++ closing :: rest).length := by simp
      have foundOthers := moreItems_of_followUps finds noComma others (by omega) enough rest
      rw [List.append_assoc, items, found]
      simp only [foundOthers]

theorem enclosed_of_listing (finds : FindsItems item Spelled closing bound)
    (noComma : closing ≠ .comma)
    (fails : ∀ rest result, item (closing :: rest) ≠ .ok result) {values : List α}
    {inside : List Token} (listed : Listing Spelled values inside)
    (short : inside.length ≤ bound) (opening : Token) (rest : List Token) :
    enclosed opening closing item (opening :: (inside ++ closing :: rest)) =
      .ok (values, rest) :=
  enclosed_eq_ok.mpr ⟨_, rfl, items_of_listing finds noComma fails listed short rest⟩

end Lists

/-! ## Parameters and signatures -/

/-- The reader finds every type of at most `bound` tokens that no array suffix follows. -/
def FindsTypes (type : Reader TypeExpr) (bound : Nat) : Prop :=
  ∀ ⦃written : TypeExpr⦄ ⦃used rest : List Token⦄, written.SpelledBy used →
    used.length ≤ bound → NoSuffix rest → type (used ++ rest) = .ok (written, rest)

variable {bound : Nat}

theorem FindsTypes.findsItems (finds : FindsTypes type bound) {closing : Token}
    (noBracket : closing ≠ .openBracket) : FindsItems type TypeExpr.SpelledBy closing bound := by
  intro written used rest spelled short ends
  exact finds spelled short (ends.noSuffix noBracket)

/-- A type in a list of parameters is not read as a name and a type. -/
theorem namedParameter_fails {used rest : List Token} (opens : OpensType used) (optional : Bool)
    (ends : EndsItem .closeParen rest) (result : Parameter × List Token) :
    namedParameter type (used ++ (Token.ifPresent .question optional ++ rest)) ≠ .ok result := by
  intro read
  rcases namedParameter_eq_ok.mp read with ⟨name, labelled, _, behind, inner, same, label, _, _⟩
  cases opens with
  | paren => simp at same
  | bracket => simp at same
  | word first others noLabel =>
      have unlabelled : others ++ (Token.ifPresent .question optional ++ rest) =
          Token.ifPresent .question labelled ++ .colon :: inner := by
        rw [← eq_ifPresent_append_of_marked label]
        exact (List.cons.inj same).2
      cases others with
      | nil =>
          -- A lone word may have a question mark behind it, but then the list goes on or ends.
          rw [List.nil_append] at unlabelled
          have found : marked .question (Token.ifPresent .question optional ++ rest) =
              (optional, rest) := marked_ifPresent_append optional ends.noQuestion
          rw [unlabelled, marked_ifPresent_append labelled (by simp)] at found
          rw [← (Prod.mk.inj found).2] at ends
          simp [EndsItem] at ends
      | cons token others =>
          have free := noLabel token rfl
          cases labelled with
          | false => exact free.2 (List.cons.inj unlabelled).1
          | true => exact free.1 (List.cons.inj unlabelled).1

theorem parameter_findsItems (finds : FindsTypes type bound) :
    FindsItems (parameter type) Parameter.SpelledBy .closeParen bound := by
  intro value used rest spelled short ends
  have noBracket : Token.closeParen ≠ .openBracket := by decide
  cases spelled with
  | @named name optional written tokens spelled =>
      simp only [List.length_cons, List.length_append] at short
      have found := finds spelled (by omega) (ends.noSuffix noBracket)
      have named : namedParameter type
          (.word name :: (Token.ifPresent .question optional ++ .colon :: (tokens ++ rest))) =
            .ok (⟨some name, optional, written⟩, rest) :=
        namedParameter_eq_ok.mpr ⟨name, optional, written, _, _, rfl,
          marked_ifPresent_append optional (by simp), found, rfl⟩
      simp only [List.cons_append, List.append_assoc, parameter, named]
  | @bare optional written tokens spelled =>
      rw [List.length_append] at short
      have stops : NoSuffix (Token.ifPresent .question optional ++ rest) := by
        cases optional with
        | false => exact ends.noSuffix noBracket
        | true => simp [NoSuffix, Token.ifPresent]
      have found := finds spelled (by omega) stops
      have bare : bareParameter type (tokens ++ (Token.ifPresent .question optional ++ rest)) =
          .ok (⟨none, optional, written⟩, rest) :=
        bareParameter_eq_ok.mpr ⟨optional, written, _, found,
          marked_ifPresent_append optional ends.noQuestion, rfl⟩
      rw [List.append_assoc, parameter]
      split
      · rename_i result named
        exact absurd named (namedParameter_fails spelled.opens optional ends result)
      · exact bare

theorem parameter_fails (sound : Sound type TypeExpr.SpelledBy) (rest : List Token)
    (result : Parameter × List Token) : parameter type (.closeParen :: rest) ≠ .ok result := by
  intro read
  rw [parameter, namedParameter] at read
  · rcases bareParameter_eq_ok.mp read with ⟨_, _, _, readType, _, _⟩
    exact type_fails sound (by rintro _ ⟨⟩) rest _ readType
  · simp

theorem signature_of_spelledBy (sound : Sound type TypeExpr.SpelledBy)
    (finds : FindsTypes type bound) {signature : Signature} {used rest : List Token}
    (spelled : signature.SpelledBy used) (short : used.length ≤ bound + 1)
    (stops : NoSuffix rest) : Reader.signature type (used ++ rest) = .ok (signature, rest) := by
  rcases spelled with @⟨isAsync, parameters, returns, inside, behind, listed, returned⟩
  simp only [List.length_append, List.length_cons] at short
  have foundParameters := enclosed_of_listing (parameter_findsItems finds) (by decide)
    (parameter_fails sound) listed (by omega) .openParen (.arrow :: (behind ++ rest))
  have foundType := finds returned (by omega) stops
  refine signature_eq_ok.mpr ⟨isAsync, parameters, returns, _, _, ?_, foundParameters, foundType,
    rfl⟩
  rw [List.append_assoc]
  simpa using marked_ifPresent_append isAsync (by simp)

/-! ## Types -/

/-- None of the choices before the last one takes the tokens of a signature. -/
theorem primary_of_signature {tokens rest : List Token} {signature : Signature}
    (spelled : signature.SpelledBy tokens) (behind : List Token)
    (read : Reader.signature type (tokens ++ behind) = .ok (signature, rest)) :
    primary type (tokens ++ behind) = .ok (.function signature, rest) := by
  rcases spelled with @⟨isAsync, parameters, returns, inside, after, _, _⟩
  have noKeyword : Primitive.ofKeyword? "async" = none := by decide
  cases isAsync with
  | false =>
      simp only [Token.ifPresent, Bool.false_eq_true, if_false, List.nil_append,
        List.cons_append, List.append_assoc] at read ⊢
      simp [primary, primitive, enclosed, applied, exactly, read, bind, Except.bind, pure,
        Except.pure]
  | true =>
      simp only [Token.ifPresent, if_true, List.nil_append, List.cons_append,
        List.append_assoc] at read ⊢
      simp [primary, primitive, noKeyword, enclosed, applied, exactly, read, bind, Except.bind,
        pure, Except.pure]

/-- An atom is found whatever follows it. -/
theorem primary_of_atomBy (sound : Sound type TypeExpr.SpelledBy) (finds : FindsTypes type bound)
    {base : TypeExpr} {used : List Token} (spelled : base.AtomBy used)
    (short : used.length ≤ bound + 1) (rest : List Token) :
    primary type (used ++ rest) = .ok (base, rest) := by
  have stops : NoSuffix (.closeAngle :: rest) := by simp [NoSuffix]
  cases spelled with
  | keyword kind =>
      have isKeyword := Primitive.ofKeyword?_keyword kind
      simp [primary, primitive, isKeyword]
  | @tuple elements inside listed =>
      simp only [List.length_append, List.length_cons] at short
      have finds : FindsItems type TypeExpr.SpelledBy .closeBracket bound :=
        finds.findsItems (by decide)
      have fails : ∀ rest result, type (.closeBracket :: rest) ≠ .ok result :=
        type_fails sound (by rintro _ ⟨⟩)
      have found := enclosed_of_listing finds (by decide) fails listed (by omega) .openBracket rest
      simp [primary, primitive, found]
  | @promise inner tokens spelled =>
      simp only [List.length_append, List.length_cons] at short
      have noKeyword : Primitive.ofKeyword? "Promise" = none := by decide
      have found : applied "Promise" type
          (.word "Promise" :: .openAngle :: (tokens ++ .closeAngle :: rest)) = .ok (inner, rest) :=
        applied_eq_ok.mpr ⟨_, rfl, finds spelled (by omega) stops⟩
      simp [primary, primitive, noKeyword, enclosed, exactly, found, bind, Except.bind]
  | @array element tokens spelled =>
      simp only [List.length_append, List.length_cons] at short
      have noKeyword : Primitive.ofKeyword? "Array" = none := by decide
      have found : applied "Array" type
          (.word "Array" :: .openAngle :: (tokens ++ .closeAngle :: rest)) = .ok (element, rest) :=
        applied_eq_ok.mpr ⟨_, rfl, finds spelled (by omega) stops⟩
      have noPromise : applied "Promise" type
          (.word "Array" :: .openAngle :: (tokens ++ .closeAngle :: rest)) = .error _ := rfl
      simp [primary, primitive, noKeyword, enclosed, exactly, noPromise, found, bind, Except.bind]

/-- Reading the suffixes behind the atom of a type gives the type. -/
theorem primary_of_suffixedBy (sound : Sound type TypeExpr.SpelledBy)
    (finds : FindsTypes type bound) {written : TypeExpr} {used : List Token} (rest : List Token)
    (short : used.length ≤ bound + 1) :
    written.SuffixedBy used → ∃ base behind, primary type (used ++ rest) = .ok (base, behind) ∧
      suffixed base behind = suffixed written rest
  | .atom spelled => ⟨written, rest, primary_of_atomBy sound finds spelled short rest, rfl⟩
  | @TypeExpr.SuffixedBy.array element tokens spelled => by
      -- Seen from the element, its suffix is the first thing behind it.
      rw [List.length_append] at short
      rcases primary_of_suffixedBy sound finds (.openBracket :: .closeBracket :: rest) (by omega)
        spelled with ⟨base, behind, read, same⟩
      refine ⟨base, behind, ?_, ?_⟩
      · simpa using read
      · rw [same, suffixed]

/-- At a depth that their tokens do not exceed, types are found. -/
theorem type_findsTypes (depth : Nat) : FindsTypes (Reader.type depth) depth := by
  induction depth with
  | zero =>
      intro written used rest spelled short
      have opens := spelled.opens
      rw [List.length_eq_zero_iff.mp (Nat.le_zero.mp short)] at opens
      cases opens
  | succ depth ih =>
      intro written used rest spelled short stops
      have sound : Sound (Reader.type depth) TypeExpr.SpelledBy := (type_sound depth).sound
      refine bind_eq_ok.mpr ?_
      cases spelled with
      | @function signature tokens spelled =>
          have read := signature_of_spelledBy sound ih spelled short stops
          refine ⟨_, primary_of_signature spelled rest read, ?_⟩
          simp only [suffixed_of_noSuffix stops]
          rfl
      | suffixed spelled =>
          -- The atom may leave suffixes behind; reading them leads to the type as a whole.
          rcases primary_of_suffixedBy sound ih rest short spelled with ⟨base, behind, read, same⟩
          refine ⟨_, read, ?_⟩
          simp only [same, suffixed_of_noSuffix stops]
          rfl

end Reader

/-- A signature is read from exactly the tokens that spell it. -/
theorem Signature.ofTokens_eq_ok {tokens : List Token} {signature : Signature} :
    Signature.ofTokens tokens = .ok signature ↔ signature.SpelledBy tokens := by
  have sound : Reader.Sound (Reader.type tokens.length) TypeExpr.SpelledBy :=
    (Reader.type_sound tokens.length).sound
  unfold Signature.ofTokens
  constructor
  · intro read
    rcases Reader.bind_eq_ok.mp read with ⟨⟨found, rest⟩, readSignature, complete⟩
    cases rest with
    | cons token rest => cases complete
    | nil =>
        rcases Reader.signature_sound sound readSignature with ⟨used, rfl, spelled⟩
        rw [← Except.ok.inj complete, List.append_nil]
        exact spelled
  · intro spelled
    have finds := Reader.type_findsTypes tokens.length
    have stops : Reader.NoSuffix [] := by simp [Reader.NoSuffix]
    have read := Reader.signature_of_spelledBy sound finds spelled (by omega) stops
    rw [List.append_nil] at read
    exact Reader.bind_eq_ok.mpr ⟨_, read, rfl⟩

end CallContracts
