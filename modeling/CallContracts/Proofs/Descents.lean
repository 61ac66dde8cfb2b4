import CallContracts.Signature.Parser
import Mathlib.Logic.Relation

/-!
# Rules that ask for rules

Six rules of the grammar are read by readers that call each other. Here a rule is read without the
bound on nesting that makes the readers structural: reading it is a `Descent`, which asks for other
rules at the tokens where they are to be read and goes on with their answers. Loops are given up if
a round uses no token, since it could be repeated forever.

Every rule is asked for behind the tokens at which the asking rule is read, or at the same tokens by
a rule of a higher rank. So every descent ends, no loop is ever given up, and a rule that is asked
for while the same rule is being read finds fewer tokens.
-/

namespace CallContracts

/-- What a reader says: a value and the remaining tokens, or the tokens at which it got stuck. -/
abbrev Reader.Answer (α : Type) : Type :=
  Except (List Token) (α × List Token)

/-- The rules that are read by a reader of their own. -/
inductive Rule where
  | type
  /-- A type without array suffixes, or a signature. -/
  | primary
  | parameter
  | signature
  /-- Parameters in parentheses. -/
  | parameters
  /-- Types in brackets. -/
  | tuple

namespace Rule

/-- What a rule is read as. -/
abbrev Output : Rule → Type
  | type | primary => TypeExpr
  | parameter => Parameter
  | signature => Signature
  | parameters => List Parameter
  | tuple => List TypeExpr

/-- A rule asks for rules of a lower rank where no token has been used. -/
def rank : Rule → Nat
  | parameters | tuple => 0
  | signature => 1
  | primary => 2
  | type => 3
  | parameter => 4

end Rule

/-! ## Descents -/

/-- How something is read: an answer, or a rule that is to be read at some tokens, with what follows
from its answer. -/
inductive Descent (α : Type) where
  | done (answer : Reader.Answer α)
  | into (rule : Rule) (tokens : List Token) (resume : Reader.Answer rule.Output → Descent α)
  /-- A loop is given up, because a round has used none of these tokens. -/
  | idle (tokens : List Token)

namespace Descent

variable {α β : Type}

def resumeWith (first : Descent α) (next : Reader.Answer α → Descent β) : Descent β :=
  match first with
  | done answer => next answer
  | into rule tokens resume => into rule tokens fun answer => (resume answer).resumeWith next
  | idle tokens => idle tokens

/-- Goes on behind what has been read. -/
def andThen (first : Descent α) (next : α → List Token → Descent β) : Descent β :=
  first.resumeWith fun
    | .ok (value, rest) => next value rest
    | .error unread => done (.error unread)

/-- Tries an alternative if the first one cannot be read. -/
def orElse (first second : Descent α) : Descent α :=
  first.resumeWith fun
    | .ok result => done (.ok result)
    | .error _ => second

end Descent

/-- A descent from any tokens. -/
def Reading (α : Type) : Type :=
  List Token → Descent α

instance : Monad Reading where
  pure value tokens := .done (.ok (value, tokens))
  bind first next tokens := (first tokens).andThen next

instance {α : Type} : OrElse (Reading α) where
  orElse first second tokens := (first tokens).orElse (second () tokens)

namespace Reading

variable {α : Type}

/-- What is read without asking for rules. -/
def of (reader : Reader α) : Reading α := fun tokens =>
  .done (reader tokens)

/-- Whether a mark comes next. -/
def mark (token : Token) : Reading Bool :=
  of fun tokens => .ok (Reader.marked token tokens)

def ask (rule : Rule) : Reading rule.Output := fun tokens =>
  .into rule tokens .done

/-- Repeats a round as long as it can be read. -/
def many (round : Reader α) : Reading (List α) := fun tokens =>
  match round tokens with
  | .error _ => .done (.ok ([], tokens))
  | .ok (value, rest) =>
    if rest.length < tokens.length then
      (many round rest).andThen fun values rest => .done (.ok (value :: values, rest))
    else .idle tokens
termination_by tokens => tokens.length

/-- Items of a list behind a first one, as long as a separator and an item can be read. -/
def followUps (separator : Reader Unit) (item : Rule) : Reading (List item.Output) := fun tokens =>
  match separator tokens with
  | .error _ => .done (.ok ([], tokens))
  | .ok ((), inside) =>
    if inside.length < tokens.length then
      .into item inside fun
        | .error _ => .done (.ok ([], tokens))
        | .ok (value, rest) =>
          if rest.length < tokens.length then
            (followUps separator item rest).andThen fun values rest =>
              .done (.ok (value :: values, rest))
          else .idle tokens
    else .idle tokens
termination_by tokens => tokens.length

def listing (separator : Reader Unit) (item : Rule) : Reading (List item.Output) := fun tokens =>
  .into item tokens fun
    | .error _ => .done (.ok ([], tokens))
    | .ok (value, rest) =>
      (followUps separator item rest).andThen fun values rest => .done (.ok (value :: values, rest))

/-! ## Reading each rule -/

/-- The word `name` and a type in angle brackets. -/
def applied (name : String) : Reading TypeExpr := do
  of (Reader.exactly (.word name))
  of (Reader.exactly .openAngle)
  let argument ← ask .type
  of (Reader.exactly .closeAngle)
  return argument

def enclosed (opening closing : Token) (item : Rule) : Reading (List item.Output) := do
  of (Reader.exactly opening)
  let values ← listing (Reader.exactly .comma) item
  of (Reader.exactly closing)
  return values

/-- A pair of brackets with nothing in it. -/
def emptyBrackets : Reader Unit := fun tokens => do
  let ((), rest) ← Reader.exactly .openBracket tokens
  Reader.exactly .closeBracket rest

def type : Reading TypeExpr := do
  let base ← ask .primary
  let suffixes ← many emptyBrackets
  return suffixes.foldl (fun type () => .array type) base

def primary : Reading TypeExpr :=
  (TypeExpr.primitive <$> of Reader.primitive) <|>
  (TypeExpr.tuple <$> ask .tuple) <|>
  (TypeExpr.promise <$> applied "Promise") <|>
  (TypeExpr.array <$> applied "Array") <|>
  (TypeExpr.function <$> ask .signature)

def word : Reader String
  | .word name :: rest => .ok (name, rest)
  | tokens => .error tokens

def namedParameter : Reading Parameter := do
  let name ← of word
  let optional ← mark .question
  of (Reader.exactly .colon)
  let type ← ask .type
  return ⟨some name, optional, type⟩

def bareParameter : Reading Parameter := do
  let type ← ask .type
  let optional ← mark .question
  return ⟨none, optional, type⟩

def signature : Reading Signature := do
  let isAsync ← mark (.word "async")
  let parameters ← ask .parameters
  of (Reader.exactly .arrow)
  let returns ← ask .type
  return ⟨isAsync, parameters, returns⟩

end Reading

/-- How each rule is read. -/
def Rule.reading : (rule : Rule) → Reading rule.Output
  | type => Reading.type
  | primary => Reading.primary
  | parameter => Reading.namedParameter <|> Reading.bareParameter
  | signature => Reading.signature
  | parameters => Reading.enclosed .openParen .closeParen .parameter
  | tuple => Reading.enclosed .openBracket .closeBracket .type

/-! ## Where rules are asked for -/

/-- The rest is left behind at least one item. -/
def ProperSuffix {α : Type} (rest items : List α) : Prop :=
  rest <:+ items ∧ rest.length < items.length

namespace ProperSuffix

variable {α : Type} {items rest behind : List α}

theorem of_cons {item : α} (suffix : item :: rest <:+ items) : ProperSuffix rest items :=
  ⟨(List.suffix_cons item rest).trans suffix, suffix.length_le⟩

theorem of_suffix (proper : ProperSuffix behind rest) (suffix : rest <:+ items) :
    ProperSuffix behind items :=
  ⟨proper.1.trans suffix, Nat.lt_of_lt_of_le proper.2 suffix.length_le⟩

theorem trans (proper : ProperSuffix behind rest) (outer : ProperSuffix rest items) :
    ProperSuffix behind items :=
  proper.of_suffix outer.1

end ProperSuffix

/-- A rule that is to be read at some tokens. -/
structure Visit where
  rule : Rule
  tokens : List Token

namespace Visit

/-- The inner rule is read at fewer tokens, or it is of a lower rank. -/
def Below (inner outer : Visit) : Prop :=
  ProperSuffix inner.tokens outer.tokens ∨
    inner.tokens = outer.tokens ∧ inner.rule.rank < outer.rule.rank

/-- At the same tokens. -/
theorem Below.of_rank {inner outer : Rule} {tokens : List Token}
    (lower : inner.rank < outer.rank) : Below ⟨inner, tokens⟩ ⟨outer, tokens⟩ :=
  .inr ⟨rfl, lower⟩

theorem Below.trans {first second third : Visit} (lower : Below first second)
    (upper : Below second third) : Below first third := by
  rcases lower with fewer | ⟨same, rank⟩ <;> rcases upper with fewerAbove | ⟨sameAbove, rankAbove⟩
  · exact Or.inl (fewer.trans fewerAbove)
  · exact Or.inl (sameAbove ▸ fewer)
  · exact Or.inl (same ▸ fewerAbove)
  · exact Or.inr ⟨same.trans sameAbove, Nat.lt_trans rank rankAbove⟩

theorem wellFounded_below : WellFounded Below := by
  refine Subrelation.wf ?_ (InvImage.wf (fun visit : Visit =>
    (visit.tokens.length, visit.rule.rank)) (Prod.lex Nat.lt_wfRel Nat.lt_wfRel).wf)
  rintro inner outer (fewer | ⟨same, rank⟩)
  · exact Prod.Lex.left _ _ fewer.2
  · simp only [InvImage, same]
    exact Prod.Lex.right _ rank

end Visit

/-- What an answer leaves, if it is a value, is such a rest. -/
def Reader.Answer.Leaves {α : Type} (answer : Reader.Answer α) (Left : List Token → Prop) : Prop :=
  ∀ value rest, answer = .ok (value, rest) → Left rest

namespace Descent

variable {α β : Type} {outer : Visit} {Left Between : List Token → Prop}

/-- Whatever the rules answer that are asked for, as long as they use tokens: each is asked for
below `outer`, no loop is given up, and what is left in the end is such a rest. -/
inductive Within (outer : Visit) (Left : List Token → Prop) : Descent α → Prop where
  | done {answer : Reader.Answer α} (leaves : answer.Leaves Left) : Within outer Left (.done answer)
  | into {rule : Rule} {tokens : List Token} {resume : Reader.Answer rule.Output → Descent α}
      (below : Visit.Below ⟨rule, tokens⟩ outer)
      (goesOn : ∀ answer : Reader.Answer rule.Output,
        answer.Leaves (ProperSuffix · tokens) → Within outer Left (resume answer)) :
      Within outer Left (.into rule tokens resume)

namespace Within

theorem error {unread : List Token} : Within outer Left (.done (.error unread) : Descent α) :=
  .done (by simp [Reader.Answer.Leaves])

theorem ok {value : α} {rest : List Token} (left : Left rest) :
    Within outer Left (.done (.ok (value, rest)) : Descent α) := by
  refine .done ?_
  rintro _ _ same
  cases same
  exact left

theorem resumeWith {first : Descent α} {next : Reader.Answer α → Descent β}
    (within : first.Within outer Between)
    (goesOn : ∀ answer : Reader.Answer α, answer.Leaves Between → (next answer).Within outer Left) :
    (first.resumeWith next).Within outer Left := by
  induction within with
  | done leaves => exact goesOn _ leaves
  | into below _ ih => exact .into below fun answer leaves => ih answer leaves

theorem andThen {first : Descent α} {next : α → List Token → Descent β}
    (within : first.Within outer Between)
    (goesOn : ∀ value rest, Between rest → (next value rest).Within outer Left) :
    (first.andThen next).Within outer Left := by
  refine within.resumeWith ?_
  rintro (unread | ⟨value, rest⟩) leaves
  · exact .error
  · exact goesOn value rest (leaves value rest rfl)

theorem orElse {first second : Descent α} (within : first.Within outer Left)
    (alternative : second.Within outer Left) : (first.orElse second).Within outer Left := by
  refine within.resumeWith ?_
  rintro (unread | ⟨value, rest⟩) leaves
  · exact alternative
  · exact .ok (leaves value rest rfl)

end Within

end Descent

theorem Visit.Below.suffix {inner outer : Visit} (below : inner.Below outer) :
    inner.tokens <:+ outer.tokens := by
  rcases below with fewer | ⟨same, _⟩
  · exact fewer.1
  · exact same ▸ List.suffix_rfl

namespace Reader

/-- Whenever something is read, tokens are used. -/
def Uses {α : Type} (reader : Reader α) : Prop :=
  ∀ ⦃tokens value rest⦄, reader tokens = .ok (value, rest) → ProperSuffix rest tokens

theorem uses_exactly (expected : Token) : Uses (exactly expected) := by
  intro tokens value rest read
  cases tokens with
  | nil => cases read
  | cons token tokens =>
      rw [exactly] at read
      split at read
      · cases read
        exact .of_cons List.suffix_rfl
      · cases read

theorem marked_suffix (mark : Token) (tokens : List Token) : (marked mark tokens).2 <:+ tokens := by
  cases tokens with
  | nil => exact List.suffix_rfl
  | cons token tokens =>
      rw [marked]
      split
      · exact List.suffix_cons token tokens
      · exact List.suffix_rfl

theorem uses_primitive : Uses primitive := by
  intro tokens value rest read
  unfold primitive at read
  split at read
  · split at read
    · cases read
      exact .of_cons List.suffix_rfl
    · cases read
  · cases read

end Reader

namespace Reading

open Descent (Within)

variable {α β : Type} {outer : Visit} {Left Between : List Token → Prop} {tokens : List Token}

theorem uses_word : word.Uses := by
  intro tokens value rest read
  unfold word at read
  split at read
  · cases read
    exact .of_cons List.suffix_rfl
  · cases read

theorem uses_emptyBrackets : emptyBrackets.Uses := by
  intro tokens value rest read
  unfold emptyBrackets at read
  cases opened : Reader.exactly .openBracket tokens with
  | error unread => simp [opened, bind, Except.bind] at read
  | ok result =>
      simp only [opened, bind, Except.bind] at read
      exact (Reader.uses_exactly _ read).trans (Reader.uses_exactly _ opened)

theorem within_bind {first : Reading α} {next : α → Reading β}
    (within : (first tokens).Within outer Between)
    (goesOn : ∀ value rest, Between rest → (next value rest).Within outer Left) :
    ((first >>= next) tokens).Within outer Left :=
  within.andThen goesOn

theorem within_pure {value : α} (left : Left tokens) :
    ((pure value : Reading α) tokens).Within outer Left :=
  .ok left

theorem within_map {reading : Reading α} {map : α → β}
    (within : (reading tokens).Within outer Left) :
    ((map <$> reading) tokens).Within outer Left :=
  within_bind within fun _ _ left => within_pure left

theorem within_orElse {first second : Reading α} (within : (first tokens).Within outer Left)
    (alternative : (second tokens).Within outer Left) :
    ((first <|> second) tokens).Within outer Left :=
  within.orElse alternative

theorem within_of {reader : Reader α} (uses : reader.Uses) (suffix : tokens <:+ outer.tokens) :
    (of reader tokens).Within outer (ProperSuffix · outer.tokens) :=
  .done fun _ _ read => (uses read).of_suffix suffix

theorem within_mark {token : Token} (suffix : tokens <:+ outer.tokens) :
    (mark token tokens).Within outer (· <:+ outer.tokens) :=
  .ok ((Reader.marked_suffix token tokens).trans suffix)

theorem within_mark_behind {token : Token} (behind : ProperSuffix tokens outer.tokens) :
    (mark token tokens).Within outer (ProperSuffix · outer.tokens) :=
  .ok ⟨(Reader.marked_suffix token tokens).trans behind.1,
    Nat.lt_of_le_of_lt (Reader.marked_suffix token tokens).length_le behind.2⟩

theorem within_ask {rule : Rule} (below : Visit.Below ⟨rule, tokens⟩ outer) :
    (ask rule tokens).Within outer (ProperSuffix · outer.tokens) :=
  .into below fun _ leaves => .done fun value rest read =>
    (leaves value rest read).of_suffix below.suffix

theorem within_many {round : Reader α} (uses : round.Uses)
    (behind : ProperSuffix tokens outer.tokens) :
    (many round tokens).Within outer (ProperSuffix · outer.tokens) := by
  fun_induction many round tokens with
  | case1 => exact .ok behind
  | case2 tokens value rest read _ ih =>
      exact (ih ((uses read).trans behind)).andThen fun _ _ left => .ok left
  | case3 tokens value rest read noneUsed => exact absurd (uses read).2 noneUsed

theorem within_followUps {separator : Reader Unit} {item : Rule} (uses : separator.Uses)
    (behind : ProperSuffix tokens outer.tokens) :
    (followUps separator item tokens).Within outer (ProperSuffix · outer.tokens) := by
  fun_induction followUps separator item tokens with
  | case1 => exact .ok behind
  | case2 tokens inside read fewer ih =>
      have inner := (uses read).trans behind
      refine .into (.inl inner) ?_
      rintro (unread | ⟨value, rest⟩) leaves
      · exact .ok behind
      · have left := leaves value rest rfl
        -- The item has used tokens behind the separator, so the guard lets the loop go on.
        have shorter : rest.length < tokens.length := Nat.lt_trans left.2 fewer
        simp only [if_pos shorter]
        exact (ih rest shorter (left.trans inner)).andThen fun _ _ left => .ok left
  | case3 tokens inside read noneUsed => exact absurd (uses read).2 noneUsed

theorem within_listing {separator : Reader Unit} {item : Rule} (uses : separator.Uses)
    (behind : ProperSuffix tokens outer.tokens) :
    (listing separator item tokens).Within outer (ProperSuffix · outer.tokens) := by
  refine .into (.inl behind) ?_
  rintro (unread | ⟨value, rest⟩) leaves
  · exact .ok behind
  · have left := leaves value rest rfl
    exact (within_followUps uses (left.trans behind)).andThen fun _ _ left => .ok left

theorem within_enclosed (opening closing : Token) (item : Rule) :
    (enclosed opening closing item outer.tokens).Within outer (ProperSuffix · outer.tokens) := by
  refine within_bind (within_of (Reader.uses_exactly _) List.suffix_rfl) fun _ _ opened => ?_
  refine within_bind (within_listing (Reader.uses_exactly _) opened) fun _ _ listed => ?_
  refine within_bind (within_of (Reader.uses_exactly _) listed.1) fun _ _ closed => ?_
  exact within_pure closed

theorem within_applied (name : String) :
    (applied name outer.tokens).Within outer (ProperSuffix · outer.tokens) := by
  refine within_bind (within_of (Reader.uses_exactly _) List.suffix_rfl) fun _ _ named => ?_
  refine within_bind (within_of (Reader.uses_exactly _) named.1) fun _ _ opened => ?_
  refine within_bind (within_ask (.inl opened)) fun _ _ read => ?_
  refine within_bind (within_of (Reader.uses_exactly _) read.1) fun _ _ closed => ?_
  exact within_pure closed

theorem within_type (tokens : List Token) :
    (type tokens).Within ⟨.type, tokens⟩ (ProperSuffix · tokens) := by
  refine within_bind (within_ask (.of_rank (by decide))) fun _ _ read => ?_
  refine within_bind (within_many uses_emptyBrackets read) fun _ _ suffixed => ?_
  exact within_pure suffixed

theorem within_primary (tokens : List Token) :
    (primary tokens).Within ⟨.primary, tokens⟩ (ProperSuffix · tokens) := by
  refine within_orElse (within_map (within_of Reader.uses_primitive List.suffix_rfl)) ?_
  refine within_orElse (within_map (within_ask (.of_rank (by decide)))) ?_
  refine within_orElse (within_map (within_applied _)) ?_
  refine within_orElse (within_map (within_applied _)) ?_
  exact within_map (within_ask (.of_rank (by decide)))

theorem within_namedParameter (tokens : List Token) :
    (namedParameter tokens).Within ⟨.parameter, tokens⟩ (ProperSuffix · tokens) := by
  refine within_bind (within_of uses_word List.suffix_rfl) fun _ _ named => ?_
  refine within_bind (within_mark_behind named) fun _ _ marked => ?_
  refine within_bind (within_of (Reader.uses_exactly _) marked.1) fun _ _ labelled => ?_
  refine within_bind (within_ask (.inl labelled)) fun _ _ read => ?_
  exact within_pure read

theorem within_bareParameter (tokens : List Token) :
    (bareParameter tokens).Within ⟨.parameter, tokens⟩ (ProperSuffix · tokens) := by
  refine within_bind (within_ask (.of_rank (by decide))) fun _ _ read => ?_
  refine within_bind (within_mark_behind read) fun _ _ marked => ?_
  exact within_pure marked

/-- The parameters of a signature may stand where the signature starts, its return type cannot. -/
theorem within_signature (tokens : List Token) :
    (signature tokens).Within ⟨.signature, tokens⟩ (ProperSuffix · tokens) := by
  refine within_bind (within_mark List.suffix_rfl) fun _ rest marked => ?_
  have below : Visit.Below ⟨.parameters, rest⟩ ⟨.signature, tokens⟩ := by
    rcases Nat.lt_or_eq_of_le marked.length_le with shorter | same
    · exact .inl ⟨marked, shorter⟩
    · rw [marked.eq_of_length same]
      exact .of_rank (by decide)
  refine within_bind (within_ask below) fun _ _ listed => ?_
  refine within_bind (within_of (Reader.uses_exactly _) listed.1) fun _ _ arrow => ?_
  refine within_bind (within_ask (.inl arrow)) fun _ _ read => ?_
  exact within_pure read

end Reading

/-- Whatever rule is read, rules are only asked for below it, no loop is given up, and tokens are
used. -/
theorem Rule.within_reading (rule : Rule) (tokens : List Token) :
    (rule.reading tokens).Within ⟨rule, tokens⟩ (ProperSuffix · tokens) := by
  cases rule with
  | type => exact Reading.within_type tokens
  | primary => exact Reading.within_primary tokens
  | parameter =>
      exact Reading.within_orElse (Reading.within_namedParameter tokens)
        (Reading.within_bareParameter tokens)
  | signature => exact Reading.within_signature tokens
  | parameters => exact Reading.within_enclosed _ _ _
  | tuple => exact Reading.within_enclosed _ _ _

/-! ## Every descent ends -/

namespace Descent

/-- The descent comes to an answer, and so does each rule that it asks for on its way. No loop is
given up. -/
inductive Ends : {α : Type} → Descent α → Reader.Answer α → Prop where
  | done {α : Type} (answer : Reader.Answer α) : Ends (.done answer) answer
  | into {α : Type} {rule : Rule} {tokens : List Token}
      {resume : Reader.Answer rule.Output → Descent α} {answer : Reader.Answer rule.Output}
      {result : Reader.Answer α} (inner : Ends (rule.reading tokens) answer)
      (goesOn : Ends (resume answer) result) : Ends (.into rule tokens resume) result

theorem Ends.unique {α : Type} {descent : Descent α} {answer other : Reader.Answer α}
    (ends : descent.Ends answer) (endsOtherwise : descent.Ends other) : answer = other := by
  induction ends with
  | done answer =>
      cases endsOtherwise
      rfl
  | into inner goesOn innerUnique goesOnUnique =>
      cases endsOtherwise with
      | into otherInner otherGoesOn =>
          rw [← innerUnique otherInner] at otherGoesOn
          exact goesOnUnique otherGoesOn

/-- A descent ends if all rules below end. -/
theorem Within.exists_ends {α : Type} {outer : Visit} {Left : List Token → Prop}
    {descent : Descent α} (within : descent.Within outer Left)
    (below : ∀ inner : Visit, inner.Below outer → ∃ answer,
      (inner.rule.reading inner.tokens).Ends answer ∧
        answer.Leaves (ProperSuffix · inner.tokens)) :
    ∃ answer, descent.Ends answer ∧ answer.Leaves Left := by
  induction within with
  | done leaves => exact ⟨_, .done _, leaves⟩
  | into isBelow _ ih =>
      rcases below _ isBelow with ⟨answer, inner, leaves⟩
      rcases ih answer leaves with ⟨result, goesOn, left⟩
      exact ⟨result, .into inner goesOn, left⟩

end Descent

/-- Reading a rule comes to an answer at whatever tokens, and a value has used some. -/
theorem Visit.exists_ends (visit : Visit) :
    ∃ answer, (visit.rule.reading visit.tokens).Ends answer ∧
      answer.Leaves (ProperSuffix · visit.tokens) := by
  induction visit using wellFounded_below.induction with
  | _ visit ih => exact (visit.rule.within_reading visit.tokens).exists_ends ih

theorem Descent.Ends.leaves {rule : Rule} {tokens : List Token}
    {answer : Reader.Answer rule.Output} (ends : (rule.reading tokens).Ends answer) :
    answer.Leaves (ProperSuffix · tokens) := by
  rcases Visit.exists_ends ⟨rule, tokens⟩ with ⟨other, otherEnds, leaves⟩
  rw [ends.unique otherEnds]
  exact leaves

/-! ## Rules within rules -/

namespace Descent

/-- The descent asks for the rule at these tokens on its way. -/
inductive Asks : {α : Type} → Descent α → Visit → Prop where
  | now {α : Type} (rule : Rule) (tokens : List Token)
      (resume : Reader.Answer rule.Output → Descent α) :
      Asks (.into rule tokens resume) ⟨rule, tokens⟩
  | later {α : Type} {rule : Rule} {tokens : List Token}
      {resume : Reader.Answer rule.Output → Descent α} {answer : Reader.Answer rule.Output}
      {visit : Visit} (inner : (rule.reading tokens).Ends answer)
      (asks : Asks (resume answer) visit) : Asks (.into rule tokens resume) visit

theorem Within.below_of_asks {α : Type} {outer inner : Visit} {Left : List Token → Prop}
    {descent : Descent α} (within : descent.Within outer Left) (asks : descent.Asks inner) :
    inner.Below outer := by
  induction asks with
  | now rule tokens resume =>
      cases within with
      | into below _ => exact below
  | later ends asks ih =>
      cases within with
      | into _ goesOn => exact ih (goesOn _ ends.leaves)

end Descent

/-- While the outer rule is being read, the inner one is asked for. -/
def Visit.Asks (outer inner : Visit) : Prop :=
  (outer.rule.reading outer.tokens).Asks inner

theorem Visit.below_of_transGen {outer inner : Visit}
    (nested : Relation.TransGen Visit.Asks outer inner) : inner.Below outer := by
  induction nested with
  | single asks => exact (Rule.within_reading _ _).below_of_asks asks
  | tail _ asks ih => exact ((Rule.within_reading _ _).below_of_asks asks).trans ih

/-- A rule that is asked for while the same rule is being read, by whatever rules in between, is
read behind tokens that have been used since. -/
theorem Visit.properSuffix_of_transGen {rule : Rule} {outer inner : List Token}
    (nested : Relation.TransGen Visit.Asks ⟨rule, outer⟩ ⟨rule, inner⟩) :
    ProperSuffix inner outer := by
  rcases below_of_transGen nested with fewer | ⟨_, rank⟩
  · exact fewer
  · exact absurd rank (Nat.lt_irrefl _)

end CallContracts
