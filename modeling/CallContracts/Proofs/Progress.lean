import CallContracts.Proofs.Descents
import CallContracts.Proofs.Acceptance

/-!
# Reading always gets ahead

The readers of signatures come to the answers of the descents, although their nesting is bounded and
their loops have no guards: the bound is never reached, and no guard would ever stop a loop. So
every reader that succeeds leaves a proper suffix of the text, and so does every reader on its way
into itself.
-/

namespace CallContracts

/-! ## The readers of the rules -/

namespace Rule

/-- The readers of the rules, with a reader for the types inside. -/
def reader (type : Reader TypeExpr) : (rule : Rule) → Reader rule.Output
  | .type => type
  | .primary => Reader.primary type
  | .parameter => Reader.parameter type
  | .signature => Reader.signature type
  | .parameters => Reader.enclosed .openParen .closeParen (Reader.parameter type)
  | .tuple => Reader.enclosed .openBracket .closeBracket type

/-- What the reader of the rule says where types may nest as deep as there are tokens. -/
def read (rule : Rule) (tokens : List Token) : Reader.Answer rule.Output :=
  rule.reader (Reader.type tokens.length) tokens

end Rule

namespace Reader

/-- The answer as a part of a larger value, or else another answer. -/
def Answer.orElse {α β : Type} (answer : Answer α) (map : α → β) (other : Answer β) : Answer β :=
  match answer with
  | .ok (value, rest) => .ok (map value, rest)
  | .error _ => other

/-- The kinds of a type without suffixes are tried one after another. -/
theorem primary_eq_orElse (type : Reader TypeExpr) (tokens : List Token) :
    primary type tokens =
      Answer.orElse (primitive tokens) .primitive
        (Answer.orElse (enclosed .openBracket .closeBracket type tokens) .tuple
          (Answer.orElse (applied "Promise" type tokens) .promise
            (Answer.orElse (applied "Array" type tokens) .array
              (Except.bind (signature type tokens) fun read =>
                .ok (.function read.1, read.2))))) := by
  unfold primary
  rcases primitive tokens with _ | ⟨kind, rest⟩
  · rcases enclosed .openBracket .closeBracket type tokens with _ | ⟨elements, rest⟩
    · rcases applied "Promise" type tokens with _ | ⟨inner, rest⟩
      · rcases applied "Array" type tokens with _ | ⟨element, rest⟩ <;> rfl
      · rfl
    · rfl
  · rfl

/-- A parameter is tried with a name first. -/
theorem parameter_eq_orElse (type : Reader TypeExpr) (tokens : List Token) :
    parameter type tokens =
      Answer.orElse (namedParameter type tokens) id (bareParameter type tokens) := by
  unfold parameter
  rcases namedParameter type tokens with _ | ⟨parameter, rest⟩ <;> rfl

end Reader

namespace Descent

variable {α β : Type} {type : Reader TypeExpr}

/-- The descent comes to this answer if the rules that it asks for are read by their readers. No
loop is given up. -/
inductive Answers (type : Reader TypeExpr) : Descent α → Reader.Answer α → Prop where
  | done (answer : Reader.Answer α) : Answers type (.done answer) answer
  | into {rule : Rule} {tokens : List Token} {resume : Reader.Answer rule.Output → Descent α}
      {answer : Reader.Answer α} (goesOn : Answers type (resume (rule.reader type tokens)) answer) :
      Answers type (.into rule tokens resume) answer

namespace Answers

theorem resumeWith {first : Descent α} {next : Reader.Answer α → Descent β}
    {answer : Reader.Answer α} {result : Reader.Answer β} (answers : first.Answers type answer)
    (goesOn : (next answer).Answers type result) :
    (first.resumeWith next).Answers type result := by
  induction answers with
  | done answer => exact goesOn
  | into _ ih => exact .into (ih goesOn)

theorem andThen {first : Descent α} {next : α → List Token → Descent β}
    {answer : Reader.Answer α} {result : α → List Token → Reader.Answer β}
    (answers : first.Answers type answer)
    (goesOn : ∀ value rest, (next value rest).Answers type (result value rest)) :
    (first.andThen next).Answers type (Except.bind answer fun read => result read.1 read.2) := by
  refine answers.resumeWith ?_
  rcases answer with unread | ⟨value, rest⟩
  · exact .done _
  · exact goesOn value rest

theorem orElse {first second : Descent α} {answer other : Reader.Answer α}
    (answers : first.Answers type answer) (alternative : second.Answers type other) :
    (first.orElse second).Answers type (answer.orElse id other) := by
  refine answers.resumeWith ?_
  rcases answer with unread | ⟨value, rest⟩
  · exact alternative
  · exact .done _

/-- If the readers come to the answers of the descents below, then so does the whole descent. -/
theorem ends {descent : Descent α} {answer : Reader.Answer α} {outer : Visit}
    {Left : List Token → Prop} (answers : descent.Answers type answer)
    (within : descent.Within outer Left)
    (below : ∀ inner : Visit, inner.Below outer →
      (inner.rule.reading inner.tokens).Ends (inner.rule.reader type inner.tokens)) :
    descent.Ends answer := by
  induction answers with
  | done answer => exact .done answer
  | into _ ih =>
      cases within with
      | into isBelow goesOn =>
          have inner := below _ isBelow
          exact .into inner (ih (goesOn _ inner.leaves))

end Answers

end Descent

namespace Reading

variable {α β : Type} {type : Reader TypeExpr} {tokens : List Token}

theorem answers_bind {first : Reading α} {next : α → Reading β} {answer : Reader.Answer α}
    {result : α → List Token → Reader.Answer β}
    (answers : (first tokens).Answers type answer)
    (goesOn : ∀ value rest, (next value rest).Answers type (result value rest)) :
    ((first >>= next) tokens).Answers type (Except.bind answer fun read => result read.1 read.2) :=
  answers.andThen goesOn

theorem answers_pure (value : α) :
    ((pure value : Reading α) tokens).Answers type (.ok (value, tokens)) :=
  .done _

theorem answers_map {reading : Reading α} {map : α → β} {answer : Reader.Answer α}
    (answers : (reading tokens).Answers type answer) :
    ((map <$> reading) tokens).Answers type
      (Except.bind answer fun read => .ok (map read.1, read.2)) :=
  answers_bind answers fun value _ => answers_pure (map value)

/-- An alternative whose value is put into a larger one. -/
theorem answers_orElse {first : Reading α} {map : α → β} {second : Reading β}
    {answer : Reader.Answer α} {other : Reader.Answer β}
    (answers : (first tokens).Answers type answer)
    (alternative : (second tokens).Answers type other) :
    ((map <$> first <|> second) tokens).Answers type (answer.orElse map other) := by
  rcases answer with unread | ⟨value, rest⟩
  · exact (answers_map answers).orElse alternative
  · exact (answers_map answers).orElse alternative

theorem answers_of (reader : Reader α) (tokens : List Token) :
    (of reader tokens).Answers type (reader tokens) :=
  .done _

theorem answers_mark (token : Token) (tokens : List Token) :
    (mark token tokens).Answers type (.ok (Reader.marked token tokens)) :=
  .done _

theorem answers_ask (rule : Rule) (tokens : List Token) :
    (ask rule tokens).Answers type (rule.reader type tokens) :=
  .into (.done _)

/-! ## Loops -/

theorem answers_followUps {item : Rule} (uses : (item.reader type).Uses) {bound : Nat}
    (enough : tokens.length ≤ bound) :
    (followUps (Reader.exactly .comma) item tokens).Answers type
      (.ok (Reader.moreItems (item.reader type) bound tokens)) := by
  -- Each item uses tokens, so the tokens run out before the bound does.
  fun_induction Reader.moreItems (item.reader type) bound tokens with
  | case1 tokens =>
      rw [List.length_eq_zero_iff.mp (Nat.le_zero.mp enough), followUps]
      exact .done _
  | case2 bound inside unread stuck =>
      rw [followUps]
      simp only [Reader.exactly, if_true, List.length_cons, Nat.lt_succ_self]
      refine .into ?_
      rw [stuck]
      exact .done _
  | case3 bound inside value rest read values behind more ih =>
      have fewer := (uses read).2
      simp only [List.length_cons] at enough
      have others := ih (by omega)
      rw [more] at others
      have shorter : rest.length < inside.length + 1 := Nat.lt_succ_of_lt fewer
      rw [followUps]
      simp only [Reader.exactly, if_true, List.length_cons, Nat.lt_succ_self]
      refine .into ?_
      rw [read]
      simp only [if_pos shorter]
      exact others.andThen fun _ _ => .done _
  | case4 bound tokens noComma =>
      have stuck : ∃ unread, Reader.exactly .comma tokens = .error unread := by
        cases tokens with
        | nil => exact ⟨_, rfl⟩
        | cons token rest =>
            have other : token ≠ .comma := fun same => noComma rest (congrArg (· :: rest) same)
            exact ⟨_, if_neg other⟩
      rcases stuck with ⟨unread, stuck⟩
      rw [followUps, stuck]
      exact .done _

theorem answers_listing {item : Rule} (uses : (item.reader type).Uses) (tokens : List Token) :
    (listing (Reader.exactly .comma) item tokens).Answers type
      (.ok (Reader.items (item.reader type) tokens)) := by
  unfold Reader.items
  refine .into ?_
  rcases item.reader type tokens with unread | ⟨value, rest⟩
  · exact .done _
  · exact (answers_followUps uses (Nat.le_refl _)).andThen fun _ _ => .done _

theorem answers_enclosed (item : Rule) (uses : (item.reader type).Uses) (opening closing : Token)
    (tokens : List Token) :
    (enclosed opening closing item tokens).Answers type
      (Reader.enclosed opening closing (item.reader type) tokens) :=
  answers_bind (answers_of _ _) fun _ _ =>
    answers_bind (answers_listing uses _) fun _ _ =>
      answers_bind (answers_of _ _) fun _ _ => answers_pure _

theorem eq_cons_of_emptyBrackets {rest : List Token}
    (read : emptyBrackets tokens = .ok ((), rest)) :
    tokens = .openBracket :: .closeBracket :: rest := by
  rcases Reader.bind_eq_ok.mp read with ⟨⟨⟨⟩, inside⟩, opened, closed⟩
  rw [Reader.exactly_eq_ok.mp opened, Reader.exactly_eq_ok.mp closed]

/-- An array type for each pair of brackets that is read. -/
theorem answers_many (base : TypeExpr) (tokens : List Token) :
    ∃ suffixes rest, (many emptyBrackets tokens).Answers type (.ok (suffixes, rest)) ∧
      Reader.suffixed base tokens = (suffixes.foldl (fun type () => .array type) base, rest) := by
  fun_induction Reader.suffixed base tokens with
  | case1 base behind ih =>
      rcases ih with ⟨suffixes, rest, answers, same⟩
      refine ⟨() :: suffixes, rest, ?_, same⟩
      have shorter : behind.length < behind.length + 1 + 1 := by omega
      rw [many]
      simp only [emptyBrackets, Reader.exactly, if_true, bind, Except.bind, List.length_cons,
        if_pos shorter]
      exact answers.andThen fun _ _ => .done _
  | case2 base tokens noBrackets =>
      refine ⟨[], tokens, ?_, rfl⟩
      rw [many]
      rcases read : emptyBrackets tokens with unread | ⟨⟨⟩, rest⟩
      · exact .done _
      · exact absurd (eq_cons_of_emptyBrackets read) (noBrackets rest)

/-! ## Rules -/

theorem answers_applied (name : String) (tokens : List Token) :
    (applied name tokens).Answers type (Reader.applied name type tokens) :=
  answers_bind (answers_of _ _) fun _ _ =>
    answers_bind (answers_of _ _) fun _ _ =>
      answers_bind (answers_ask .type _) fun _ _ =>
        answers_bind (answers_of _ _) fun _ _ => answers_pure _

theorem answers_suffixed (base : TypeExpr) (tokens : List Token) :
    ((do
      let suffixes ← many emptyBrackets
      return suffixes.foldl (fun type () => TypeExpr.array type) base) tokens).Answers type
        (.ok (Reader.suffixed base tokens)) := by
  rcases answers_many base tokens with ⟨suffixes, rest, answers, same⟩
  rw [same]
  exact answers_bind answers fun _ _ => answers_pure _

/-- The types inside are read one level deeper. -/
theorem answers_type (depth : Nat) (tokens : List Token) :
    (Reading.type tokens).Answers (Reader.type depth) (Reader.type (depth + 1) tokens) :=
  answers_bind (answers_ask .primary _) answers_suffixed

theorem answers_primary (tokens : List Token) :
    (primary tokens).Answers type (Reader.primary type tokens) := by
  rw [Reader.primary_eq_orElse]
  exact answers_orElse (answers_of _ _) <|
    answers_orElse (answers_ask .tuple _) <|
      answers_orElse (answers_applied _ _) <|
        answers_orElse (answers_applied _ _) <| answers_map (answers_ask .signature _)

theorem answers_namedParameter (tokens : List Token) :
    (namedParameter tokens).Answers type (Reader.namedParameter type tokens) := by
  have answers : (namedParameter tokens).Answers type
      (Except.bind (word tokens) fun named =>
        Except.bind (.ok (Reader.marked .question named.2)) fun optional =>
          Except.bind (Reader.exactly .colon optional.2) fun colon =>
            Except.bind (type colon.2) fun read =>
              .ok (⟨some named.1, optional.1, read.1⟩, read.2)) :=
    answers_bind (answers_of _ _) fun _ _ =>
      answers_bind (answers_mark _ _) fun _ _ =>
        answers_bind (answers_of _ _) fun _ _ =>
          answers_bind (answers_ask .type _) fun _ _ => answers_pure _
  rcases tokens with _ | ⟨token, rest⟩
  · exact answers
  · cases token <;> exact answers

theorem answers_bareParameter (tokens : List Token) :
    (bareParameter tokens).Answers type (Reader.bareParameter type tokens) :=
  answers_bind (answers_ask .type _) fun _ _ =>
    answers_bind (answers_mark _ _) fun _ _ => answers_pure _

theorem answers_parameter (tokens : List Token) :
    ((namedParameter <|> bareParameter) tokens).Answers type (Reader.parameter type tokens) := by
  rw [Reader.parameter_eq_orElse]
  exact (answers_namedParameter tokens).orElse (answers_bareParameter tokens)

theorem answers_signature (tokens : List Token) :
    (signature tokens).Answers type (Reader.signature type tokens) :=
  answers_bind (answers_mark _ _) fun _ _ =>
    answers_bind (answers_ask .parameters _) fun _ _ =>
      answers_bind (answers_of _ _) fun _ _ =>
        answers_bind (answers_ask .type _) fun _ _ => answers_pure _

end Reading

/-! ## Readers use tokens -/

namespace Reader

theorem Sound.uses {α : Type} {reader : Reader α} {Spelled : α → List Token → Prop}
    (sound : Sound reader Spelled) (nonempty : ∀ value, ¬Spelled value []) : reader.Uses := by
  intro tokens value rest read
  rcases sound read with ⟨used, rfl, spelled⟩
  cases used with
  | nil => exact absurd spelled (nonempty value)
  | cons token used =>
      refine ⟨List.suffix_append _ _, ?_⟩
      simp only [List.cons_append, List.length_cons, List.length_append]
      omega

theorem uses_type (depth : Nat) : (type depth).Uses :=
  (type_sound depth).sound.uses fun _ spelled => nomatch spelled.opens

theorem uses_parameter (depth : Nat) : (parameter (type depth)).Uses := by
  refine (parameter_sound (type_sound depth).sound).uses ?_
  rintro ⟨name, optional, written⟩ spelled
  generalize same : ([] : List Token) = tokens at spelled
  cases spelled with
  | named spelled => cases same
  | bare spelled =>
      have opens := spelled.opens
      rw [(List.append_eq_nil_iff.mp same.symm).1] at opens
      cases opens

end Reader

/-! ## The answers of the readers -/

/-- A rule that is no type asks for types of the depth at which it is read. -/
theorem Rule.answers_reading {rule : Rule} (noType : rule ≠ .type) (depth : Nat)
    (tokens : List Token) :
    (rule.reading tokens).Answers (Reader.type depth) (rule.reader (Reader.type depth) tokens) := by
  cases rule with
  | type => exact absurd rfl noType
  | primary => exact Reading.answers_primary tokens
  | parameter => exact Reading.answers_parameter tokens
  | signature => exact Reading.answers_signature tokens
  | parameters =>
      exact Reading.answers_enclosed .parameter (Reader.uses_parameter depth) _ _ tokens
  | tuple => exact Reading.answers_enclosed .type (Reader.uses_type depth) _ _ tokens

namespace Visit

/-- Types of this depth are deep enough for the visit. A type takes a level for itself. -/
def Fits (visit : Visit) (depth : Nat) : Prop :=
  visit.tokens.length ≤ depth ∨
    visit.tokens.length ≤ depth + 1 ∧ visit.rule.rank < Rule.type.rank

theorem Below.fits {inner outer : Visit} {depth : Nat} (below : inner.Below outer)
    (fits : outer.Fits depth) : inner.Fits depth := by
  rcases fits with short | ⟨short, rank⟩
  · exact .inl (Nat.le_trans below.suffix.length_le short)
  · rcases below with ⟨_, fewer⟩ | ⟨same, lower⟩
    · exact .inl (Nat.le_of_lt_succ (Nat.lt_of_lt_of_le fewer short))
    · exact .inr ⟨same ▸ short, Nat.lt_trans lower rank⟩

/-- One level less is deep enough inside a type. -/
theorem Below.fits_type {inner : Visit} {tokens : List Token} {depth : Nat}
    (below : inner.Below ⟨.type, tokens⟩) (short : tokens.length ≤ depth + 1) :
    inner.Fits depth := by
  rcases below with ⟨_, fewer⟩ | ⟨same, lower⟩
  · exact .inl (Nat.le_of_lt_succ (Nat.lt_of_lt_of_le fewer short))
  · exact .inr ⟨same ▸ short, lower⟩

end Visit

theorem Reader.type_pred {depth : Nat} {tokens : List Token} (short : tokens.length ≤ depth) :
    Reader.type depth tokens = Reader.type (depth - 1 + 1) tokens := by
  cases depth with
  | zero =>
      -- Without tokens every depth gets stuck at once.
      rw [List.length_eq_zero_iff.mp (Nat.le_zero.mp short)]
      rfl
  | succ depth => rfl

/-- The readers come to the answers of the descents. -/
theorem Visit.ends_reader (visit : Visit) (depth : Nat) (fits : visit.Fits depth) :
    (visit.rule.reading visit.tokens).Ends
      (visit.rule.reader (Reader.type depth) visit.tokens) := by
  -- Below a type the depth is one less. It still fits, for the types there have fewer tokens.
  induction visit using wellFounded_below.induction generalizing depth with
  | _ visit ih =>
      rcases visit with ⟨rule, tokens⟩
      by_cases isType : rule = .type
      · subst isType
        have short : tokens.length ≤ depth := by
          rcases fits with short | ⟨_, rank⟩
          · exact short
          · exact absurd rank (Nat.lt_irrefl _)
        simp only [Rule.reader, Reader.type_pred short]
        refine (Reading.answers_type (depth - 1) tokens).ends (Reading.within_type tokens) ?_
        intro inner below
        exact ih inner below _ (below.fits_type (by omega))
      · refine (Rule.answers_reading isType depth tokens).ends (rule.within_reading tokens) ?_
        intro inner below
        exact ih inner below depth (below.fits fits)

namespace Rule

theorem ends_reader (rule : Rule) {tokens : List Token} {depth : Nat}
    (enough : tokens.length ≤ depth) :
    (rule.reading tokens).Ends (rule.reader (Reader.type depth) tokens) :=
  Visit.ends_reader ⟨rule, tokens⟩ depth (.inl enough)

/-- More depth than tokens makes no difference. -/
theorem reader_eq_read (rule : Rule) {tokens : List Token} {depth : Nat}
    (enough : tokens.length ≤ depth) : rule.reader (Reader.type depth) tokens = rule.read tokens :=
  (rule.ends_reader enough).unique (rule.ends_reader (Nat.le_refl _))

theorem ends_iff {rule : Rule} {tokens : List Token} {answer : Reader.Answer rule.Output} :
    (rule.reading tokens).Ends answer ↔ answer = rule.read tokens := by
  have ends := rule.ends_reader (Nat.le_refl tokens.length)
  constructor
  · exact fun other => other.unique ends
  · rintro rfl
    exact ends

end Rule

/-! ## The texts behind the tokens -/

/-- The tokens of a text, without their places. -/
def Token.ofText (text : String) : List Token :=
  (Lexeme.ofText text).map Lexeme.token

namespace Lexeme

theorem map_token_scan (start other : Nat) (characters : List Char) :
    (scan start characters).map token = (scan other characters).map token := by
  fun_induction scan start characters generalizing other with
  | case1 => simp [scan]
  | case2 start rest ih => simp [scan, ih (other + 2)]
  | case3 start character rest noArrow isBlank ih =>
      rw [scan, if_pos isBlank]
      · exact ih _
      · exact noArrow
  | case4 start character rest noArrow noBlank starts name ih =>
      rw [scan, if_neg noBlank, if_pos starts]
      · rw [List.map_cons, List.map_cons, ih]
      · exact noArrow
  | case5 start character rest noArrow noBlank noStart ih =>
      rw [scan, if_neg noBlank, if_neg noStart]
      · rw [List.map_cons, List.map_cons, ih]
      · exact noArrow

/-- The tokens are those of a suffix of the text. -/
def IsLeft (rest : List Token) (characters : List Char) : Prop :=
  ∃ remainder, remainder <:+ characters ∧ ∀ start, (scan start remainder).map token = rest

theorem IsLeft.append {rest : List Token} {behind : List Char} (left : IsLeft rest behind)
    (used : List Char) : IsLeft rest (used ++ behind) := by
  rcases left with ⟨remainder, suffix, same⟩
  exact ⟨remainder, suffix.trans (List.suffix_append used behind), same⟩

theorem isLeft_scan (start : Nat) (characters : List Char) :
    IsLeft ((scan start characters).map token) characters :=
  ⟨characters, List.suffix_rfl, fun other => map_token_scan other start characters⟩

/-- What is left of the tokens of a text are the tokens of what is left of the text. -/
theorem isLeft_of_suffix {start : Nat} {characters : List Char} {rest : List Token}
    (suffix : rest <:+ (scan start characters).map token) : IsLeft rest characters := by
  fun_induction scan start characters with
  | case1 =>
      rw [List.suffix_nil.mp suffix]
      exact ⟨[], List.suffix_rfl, fun start => by rw [scan, List.map_nil]⟩
  | case2 start behind ih =>
      rcases List.suffix_cons_iff.mp suffix with rfl | inside
      · have all := isLeft_scan start ('=' :: '>' :: behind)
        rwa [scan] at all
      · exact (ih inside).append ['=', '>']
  | case3 start character behind _ isBlank ih => exact (ih suffix).append [character]
  | case4 start character behind noArrow noBlank starts name ih =>
      rcases List.suffix_cons_iff.mp suffix with rfl | inside
      · have all := isLeft_scan start (character :: behind)
        rwa [scan, if_neg noBlank, if_pos starts] at all
        exact noArrow
      · have left := (ih inside).append name
        rwa [List.cons_append, List.takeWhile_append_dropWhile] at left
  | case5 start character behind noArrow noBlank noStart ih =>
      rcases List.suffix_cons_iff.mp suffix with rfl | inside
      · have all := isLeft_scan start (character :: behind)
        rwa [scan, if_neg noBlank, if_neg noStart] at all
        exact noArrow
      · exact (ih inside).append [character]

end Lexeme

namespace Token

theorem exists_remainder {text : String} {rest : List Token} (suffix : rest <:+ ofText text) :
    ∃ remainder : String, remainder.toList <:+ text.toList ∧ ofText remainder = rest := by
  rcases Lexeme.isLeft_of_suffix suffix with ⟨remainder, isSuffix, same⟩
  refine ⟨String.ofList remainder, by simpa using isSuffix, ?_⟩
  rw [ofText, Lexeme.ofText, String.toList_ofList, same]

/-- Tokens that are left behind others stand behind at least one character of the text. -/
theorem exists_properRemainder {text : String} {rest : List Token}
    (proper : ProperSuffix rest (ofText text)) :
    ∃ remainder : String, ProperSuffix remainder.toList text.toList ∧ ofText remainder = rest := by
  rcases exists_remainder proper.1 with ⟨remainder, suffix, same⟩
  refine ⟨remainder, ⟨suffix, Nat.lt_of_le_of_ne suffix.length_le fun length => ?_⟩, same⟩
  -- With all characters left, all tokens would be left.
  have all : remainder = text := String.toList_injective (suffix.eq_of_length length)
  rw [← same, all] at proper
  exact Nat.lt_irrefl _ proper.2

end Token

/-! ## Reading a text -/

/-- How a rule is read at a text. -/
structure Rule.GetsAhead (rule : Rule) (text : String) : Prop where
  /-- The descent ends with what the reader says, and with nothing else. No loop in it is given
  up. -/
  ends (answer : Reader.Answer rule.Output) :
    (rule.reading (Token.ofText text)).Ends answer ↔ answer = rule.read (Token.ofText text)
  /-- The bound on nesting that the reader has makes no difference. -/
  deep (depth : Nat) (enough : (Token.ofText text).length ≤ depth) :
    rule.reader (Reader.type depth) (Token.ofText text) = rule.read (Token.ofText text)
  /-- A value leaves a proper suffix of the text. -/
  leaves (value : rule.Output) (rest : List Token)
    (read : rule.read (Token.ofText text) = .ok (value, rest)) :
    ∃ remainder : String, ProperSuffix remainder.toList text.toList ∧
      Token.ofText remainder = rest
  /-- Rules are asked for, by whatever rules in between, at suffixes of the text. -/
  asked (inner : Visit)
    (asks : Relation.TransGen Visit.Asks ⟨rule, Token.ofText text⟩ inner) :
    ∃ remainder : String, remainder.toList <:+ text.toList ∧
      Token.ofText remainder = inner.tokens
  /-- The rule itself is asked for at proper suffixes only. -/
  nested (tokens : List Token)
    (asks : Relation.TransGen Visit.Asks ⟨rule, Token.ofText text⟩ ⟨rule, tokens⟩) :
    ∃ remainder : String, ProperSuffix remainder.toList text.toList ∧
      Token.ofText remainder = tokens

theorem Rule.getsAhead (rule : Rule) (text : String) : rule.GetsAhead text where
  ends _ := Rule.ends_iff
  deep _ enough := rule.reader_eq_read enough
  leaves _ _ read := by
    have ends := rule.ends_reader (Nat.le_refl (Token.ofText text).length)
    exact Token.exists_properRemainder (ends.leaves _ _ read)
  asked _ asks := Token.exists_remainder (Visit.below_of_transGen asks).suffix
  nested _ asks := Token.exists_properRemainder (Visit.properSuffix_of_transGen asks)

/-- What is said of a text for which the rule of signatures has come to an answer: it is one if
nothing is left. -/
def Signature.concluded (text : String) :
    Reader.Answer Signature → Except SyntaxFault Signature
  | .ok (signature, []) => .ok signature
  | .ok (_, rest) => .error (.ofUnread text (Lexeme.ofText text) rest.length)
  | .error rest => .error (.ofUnread text (Lexeme.ofText text) rest.length)

theorem Signature.parse_eq_concluded (text : String) :
    parse text = concluded text (Rule.signature.read (Token.ofText text)) := by
  unfold parse ofTokens
  simp only [Rule.read, Rule.reader, Token.ofText]
  rcases Reader.signature _ _ with unread | ⟨signature, _ | ⟨token, rest⟩⟩ <;> rfl

/-- At every text, every rule is read to an end without a loop being given up; its values leave
proper suffixes of the text, and it is read again within itself at proper suffixes only. So a text
is no signature only if the rule of signatures cannot be read, or if it leaves something. -/
theorem reading_always_gets_ahead (text : String) :
    (∀ rule : Rule, rule.GetsAhead text) ∧
      ∃ answer, (Rule.signature.reading (Token.ofText text)).Ends answer ∧
        Signature.parse text = Signature.concluded text answer := by
  refine ⟨fun rule => rule.getsAhead text, _, Rule.ends_iff.mpr rfl, ?_⟩
  exact Signature.parse_eq_concluded text

/-- A signature within a signature. -/
theorem reading_always_gets_ahead_of_callback :
    Relation.TransGen Visit.Asks ⟨.signature, Token.ofText "(f: () => void) => string"⟩
        ⟨.signature, Token.ofText "() => void) => string"⟩ ∧
      (∃ remainder : String,
        ProperSuffix remainder.toList "(f: () => void) => string".toList ∧
          Token.ofText remainder = Token.ofText "() => void) => string") ∧
      ∃ remainder : String,
        ProperSuffix remainder.toList "() => void) => string".toList ∧
          Token.ofText remainder = [.closeParen, .arrow, .word "string"] := by
  have outside : Token.ofText "(f: () => void) => string" =
      [.openParen, .word "f", .colon, .openParen, .closeParen, .arrow, .word "void", .closeParen,
        .arrow, .word "string"] := by decide +kernel
  have inside : Token.ofText "() => void) => string" =
      [.openParen, .closeParen, .arrow, .word "void", .closeParen, .arrow, .word "string"] := by
    decide +kernel
  have read : Rule.signature.read (Token.ofText "() => void) => string") =
      .ok (⟨false, [], .primitive .void⟩, [.closeParen, .arrow, .word "string"]) := by
    rw [inside]
    rfl
  have asks : Relation.TransGen Visit.Asks ⟨.signature, Token.ofText "(f: () => void) => string"⟩
        ⟨.signature, Token.ofText "() => void) => string"⟩ := by
    rw [outside, inside]
    have parameters (behind : List Token) :
        Visit.Asks ⟨.signature, .openParen :: behind⟩ ⟨.parameters, .openParen :: behind⟩ :=
      .now _ _ _
    have first (behind : List Token) :
        Visit.Asks ⟨.parameters, .openParen :: behind⟩ ⟨.parameter, behind⟩ := .now _ _ _
    have named (name : String) (behind : List Token) :
        Visit.Asks ⟨.parameter, .word name :: .colon :: behind⟩ ⟨.type, behind⟩ := .now _ _ _
    have base (tokens : List Token) : Visit.Asks ⟨.type, tokens⟩ ⟨.primary, tokens⟩ := .now _ _ _
    have noTuple (behind : List Token) :
        Visit.Asks ⟨.primary, .openParen :: behind⟩ ⟨.signature, .openParen :: behind⟩ :=
      .later (.done _) (.now _ _ _)
    exact ((((Relation.TransGen.single (parameters _)).tail (first _)).tail (named _ _)).tail
      (base _)).tail (noTuple _)
  have outer := (reading_always_gets_ahead "(f: () => void) => string").1 .signature
  have inner := (reading_always_gets_ahead "() => void) => string").1 .signature
  exact ⟨asks, outer.nested _ asks, inner.leaves _ _ read⟩

end CallContracts
