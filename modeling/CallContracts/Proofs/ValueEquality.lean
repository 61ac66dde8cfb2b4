import Mathlib
import CallContracts.Proofs.Layers
import CallContracts.Value.Equality

/-!
# Equality by visible parts

A value is made of parts: the items of an array and the members that an object shows. Equality of
values is decided part by part. Two values are equal if they are alike in themselves and, at each
place, either both have no part or their parts are equal. What a layer hides is at no place, so it
has no say.

All laws of equality follow from this by induction over visible parts. Equality is symmetric and
transitive; a value differs from itself only through a `NaN` or a promise that it reaches.
-/

namespace CallContracts

/-- Lists are related if what they have at each place is. -/
theorem forall₂_iff_rel_getElem? {α β : Type} {related : α → β → Prop} {lefts : List α}
    {rights : List β} : List.Forall₂ related lefts rights ↔
      ∀ index : Nat, Option.Rel related lefts[index]? rights[index]? := by
  constructor
  · intro both index
    induction both generalizing index with
    | nil => exact .none
    | cons first _ ih =>
        cases index with
        | zero => exact .some first
        | succ index => exact ih index
  · intro both
    induction lefts generalizing rights with
    | nil =>
        cases rights with
        | nil => exact .nil
        | cons right rights => cases both 0
    | cons left lefts ih =>
        cases rights with
        | nil => cases both 0
        | cons right rights =>
            have first : Option.Rel related (some left) (some right) := both 0
            exact .cons (Option.rel_some_some.mp first) (ih fun index => both (index + 1))

/-- Where a part of a value is found. -/
inductive Place where
  | item (index : Nat)
  | member (key : String)

namespace Value

/-- The part at a place: an item of an array, or a member that an object shows. -/
def part? : Value → Place → Option Value
  | .array items, .item index => items[index]?
  | .object owner, .member key => owner.get? key
  | _, _ => none

/-- `value.Reaches part` says that the part is found in the value, at any depth. -/
inductive Reaches : Value → Value → Prop
  | here {value : Value} : value.Reaches value
  | inside {value part inner : Value} {place : Place} (found : value.part? place = some part)
      (reaches : part.Reaches inner) : value.Reaches inner

/-- Whether two values are alike, whatever their parts are. -/
def Resembles : Value → Value → Prop
  | .undefined, .undefined => True
  | .null, .null => True
  | .bool left, .bool right => left = right
  | .number left, .number right => (left == right) = true
  | .string left, .string right => left = right
  | .array _, .array _ => True
  | .object _, .object _ => True
  | .function left, .function right => left = right
  | _, _ => False

/-- A value that is equal to nothing. -/
def IsIncomparable : Value → Prop
  | .number value => value.isNaN = true
  | .promise _ => True
  | _ => False

abbrev Equals (left right : Value) : Prop :=
  (left == right) = true

/-! ## Induction over parts -/

theorem sizeOf_lt_of_find? {members : Members Value} {key : String} {value : Value}
    (found : members.find? key = some value) : sizeOf value < sizeOf members := by
  induction members with
  | nil => simp at found
  | cons member members ih =>
      rcases member with ⟨other, content⟩
      simp only [Members.find?] at found
      split at found
      · cases found
        simp only [List.cons.sizeOf_spec, Prod.mk.sizeOf_spec]
        omega
      · have smaller := ih found
        simp only [List.cons.sizeOf_spec]
        omega

theorem sizeOf_lt_of_get? (object : Object) {key : String} {value : Value}
    (found : object.get? key = some value) : sizeOf value < sizeOf object := by
  cases object with
  | root own =>
      have smaller := sizeOf_lt_of_find? found
      simp only [Object.root.sizeOf_spec]
      omega
  | layer own delegate =>
      simp only [Object.get?] at found
      simp only [Object.layer.sizeOf_spec]
      split at found
      · rename_i content top
        cases found
        have smaller := sizeOf_lt_of_find? top
        omega
      · have smaller := sizeOf_lt_of_get? delegate found
        omega
termination_by structural object

theorem sizeOf_lt_of_part? {value part : Value} {place : Place}
    (found : value.part? place = some part) : sizeOf part < sizeOf value := by
  cases value with
  | array items =>
      cases place with
      | item index =>
          have smaller := List.sizeOf_lt_of_mem (List.mem_of_getElem? (l := items) found)
          simp only [array.sizeOf_spec]
          omega
      | member key => cases found
  | object owner =>
      cases place with
      | item index => cases found
      | member key =>
          have smaller := sizeOf_lt_of_get? owner found
          simp only [object.sizeOf_spec]
          omega
  | _ => cases found

theorem induction_parts {motive : Value → Prop}
    (step : ∀ value, (∀ place part, value.part? place = some part → motive part) → motive value)
    (value : Value) : motive value :=
  step value fun _ part _ => induction_parts step part
termination_by sizeOf value
decreasing_by exact sizeOf_lt_of_part? ‹_›

/-! ## Equality part by part -/

theorem beqList_iff (lefts rights : List Value) :
    Value.beqList lefts rights = true ↔ List.Forall₂ Equals lefts rights := by
  induction lefts generalizing rights with
  | nil => cases rights <;> simp [Value.beqList]
  | cons left lefts ih =>
      cases rights with
      | nil => simp [Value.beqList]
      | cons right rights =>
          rw [Value.beqList, Bool.and_eq_true, ih, List.forall₂_cons]
          rfl

end Value

namespace Object

/-- Where something is shown, `other` shows something equal. -/
def Covers (shown other : Option Value) : Prop :=
  ∀ value, shown = some value → ∃ content, other = some content ∧ value.Equals content

theorem covers_none (other : Option Value) : Covers none other := by
  intro value shown
  cases shown

theorem membersAgree_cons_iff (key : String) (value : Value) (members : Members Value)
    (other : Object) (hidden : List String) :
    Value.membersAgree ((key, value) :: members) other hidden = true ↔
      (key ∉ hidden → Covers (some value) (other.get? key)) ∧
        Value.membersAgree members other (key :: hidden) = true := by
  rw [Value.membersAgree, Bool.and_eq_true]
  apply and_congr_left
  intro _
  by_cases isHidden : key ∈ hidden
  · simp [isHidden]
  · cases found : other.get? key with
    | none => simp [isHidden, Covers]
    | some content =>
        have same : value.beq content = (value == content) := rfl
        simp [isHidden, Covers, same]

theorem membersAgree_iff (members : Members Value) (other : Object) (hidden : List String) :
    Value.membersAgree members other hidden = true ↔
      ∀ key, key ∉ hidden → Covers (members.find? key) (other.get? key) := by
  induction members generalizing hidden with
  | nil => simp [Value.membersAgree, covers_none]
  | cons member members ih =>
      rcases member with ⟨first, value⟩
      rw [membersAgree_cons_iff, ih]
      constructor
      · rintro ⟨top, rest⟩ key visible
        by_cases same : first = key
        · subst same
          simpa [Members.find?] using top visible
        · have visible : key ∉ first :: hidden := by simp [visible, Ne.symm same]
          simpa [Members.find?, same] using rest key visible
      · intro covered
        refine ⟨fun visible => ?_, fun key visible => ?_⟩
        · simpa [Members.find?] using covered first visible
        · simp only [List.mem_cons, not_or] at visible
          simpa [Members.find?, Ne.symm visible.1] using covered key visible.2

theorem agrees_iff (object other : Object) (hidden : List String) :
    object.agrees other hidden = true ↔
      ∀ key, key ∉ hidden → Covers (object.get? key) (other.get? key) := by
  cases object with
  | root own =>
      rw [Object.agrees, membersAgree_iff]
      rfl
  | layer own delegate =>
      rw [Object.agrees, Bool.and_eq_true, membersAgree_iff, agrees_iff delegate]
      -- The keys of the top layer are hidden further down, so each key is compared once.
      constructor
      · rintro ⟨top, below⟩ key visible
        rw [get?]
        split
        · rename_i value found
          exact found ▸ top key visible
        · rename_i absent
          refine below key ?_
          simp [Members.mem_keys_iff, absent, visible]
      · intro covered
        refine ⟨fun key visible => ?_, fun key visible => ?_⟩
        · have here := covered key visible
          simp only [get?] at here
          split at here
          · rename_i value found
            rwa [found]
          · rename_i absent
            rw [absent]
            exact covers_none _
        · simp only [List.mem_append, not_or, Members.mem_keys_iff, Option.not_isSome_iff_eq_none]
            at visible
          have here := covered key visible.2
          simpa [get?, visible.1] using here
termination_by structural object

theorem isSome_get?_eq_of_keys_eq {left right : Object} (keys : left.keys = right.keys)
    (key : String) : (left.get? key).isSome = (right.get? key).isSome := by
  rw [Bool.eq_iff_iff, ← mem_keys_iff, ← mem_keys_iff, keys]

/-- Objects are equal if they have the same visible keys and equal members under them. -/
theorem beq_iff_keys (left right : Object) :
    (left == right) = true ↔
      left.keys = right.keys ∧ ∀ key first second, left.get? key = some first →
        right.get? key = some second → (first == second) = true := by
  have unfolded : (left == right) = (left.keys == right.keys && left.agrees right []) := rfl
  rw [unfolded, Bool.and_eq_true, beq_iff_eq, agrees_iff]
  apply and_congr_right
  intro keys
  constructor
  · intro covered key first second shown other
    rcases covered key List.not_mem_nil first shown with ⟨content, found, equal⟩
    cases other.symm.trans found
    exact equal
  · intro equal key _ first shown
    have visible : (right.get? key).isSome := by
      rw [← isSome_get?_eq_of_keys_eq keys, shown]
      rfl
    rcases Option.isSome_iff_exists.mp visible with ⟨second, other⟩
    exact ⟨second, other, equal key first second shown other⟩

theorem beq_iff (left right : Object) :
    (left == right) = true ↔
      ∀ key, Option.Rel Value.Equals (left.get? key) (right.get? key) := by
  rw [beq_iff_keys]
  constructor
  · rintro ⟨keys, equal⟩ key
    have both := isSome_get?_eq_of_keys_eq keys key
    cases shown : left.get? key with
    | none =>
        cases other : right.get? key with
        | none => exact .none
        | some second => simp [shown, other] at both
    | some first =>
        cases other : right.get? key with
        | none => simp [shown, other] at both
        | some second => exact .some (equal key first second shown other)
  · intro same
    refine ⟨keys_eq_of_isSome_get? fun key => ?_, fun key first second shown other => ?_⟩
    · have equal := same key
      revert equal
      cases left.get? key <;> cases right.get? key <;> simp
    · simpa [shown, other] using same key

end Object

namespace Value

/-- Values are equal if they are alike and have equal parts at the same places. -/
theorem beq_iff (left right : Value) :
    (left == right) = true ↔
      left.Resembles right ∧
        ∀ place, Option.Rel Equals (left.part? place) (right.part? place) := by
  have unfolded : (left == right) = left.beq right := rfl
  cases left with
  | array lefts =>
      cases right with
      | array rights =>
          rw [unfolded, Value.beq, beqList_iff, forall₂_iff_rel_getElem?]
          constructor
          · intro same
            refine ⟨trivial, ?_⟩
            rintro (index | key)
            · exact same index
            · exact .none
          · exact fun same index => same.2 (.item index)
      | _ => simp [unfolded, Value.beq, Resembles]
  | object left =>
      cases right with
      | object right =>
          have objects : (Value.object left == Value.object right) = (left == right) := rfl
          rw [objects, Object.beq_iff]
          constructor
          · intro same
            refine ⟨trivial, ?_⟩
            rintro (index | key)
            · exact .none
            · exact same key
          · exact fun same key => same.2 (.member key)
      | _ => simp [unfolded, Value.beq, Resembles]
  | _ => cases right <;> simp [unfolded, Value.beq, Resembles, part?]

/-! ## Laws of equality -/

theorem Resembles.symm {left right : Value} (alike : left.Resembles right) :
    right.Resembles left := by
  cases left <;> cases right <;> simp_all only [Resembles]
  exact BEq.symm alike

theorem Resembles.trans {left middle right : Value} (first : left.Resembles middle)
    (second : middle.Resembles right) : left.Resembles right := by
  cases left <;> cases middle <;> simp only [Resembles] at first <;>
    cases right <;> simp_all only [Resembles]
  exact BEq.trans first second

theorem resembles_self_iff (value : Value) : value.Resembles value ↔ ¬value.IsIncomparable := by
  cases value with
  | number value => simp [Resembles, IsIncomparable]
  | _ => simp [Resembles, IsIncomparable]

theorem rel_symm {left right : Option Value} (parts : Option.Rel Equals left right)
    (symm : ∀ part, left = some part → ∀ content, part.Equals content → content.Equals part) :
    Option.Rel Equals right left := by
  cases parts with
  | none => exact .none
  | some equal => exact .some (symm _ rfl _ equal)

theorem rel_trans {left middle right : Option Value} (first : Option.Rel Equals left middle)
    (second : Option.Rel Equals middle right)
    (trans : ∀ part, left = some part → ∀ content further, part.Equals content →
      content.Equals further → part.Equals further) : Option.Rel Equals left right := by
  cases first with
  | none =>
      cases second
      exact .none
  | some equal =>
      cases second with
      | some further => exact .some (trans _ rfl _ _ equal further)

theorem Equals.symm {left right : Value} (equal : left.Equals right) : right.Equals left := by
  induction left using induction_parts generalizing right with
  | step left ih =>
      rcases (beq_iff left right).mp equal with ⟨alike, parts⟩
      refine (beq_iff right left).mpr ⟨alike.symm, fun place => ?_⟩
      exact rel_symm (parts place) fun part found _ => ih place part found

theorem Equals.trans {left middle right : Value} (first : left.Equals middle)
    (second : middle.Equals right) : left.Equals right := by
  induction left using induction_parts generalizing middle right with
  | step left ih =>
      rcases (beq_iff left middle).mp first with ⟨alike, parts⟩
      rcases (beq_iff middle right).mp second with ⟨alikeFurther, partsFurther⟩
      refine (beq_iff left right).mpr ⟨alike.trans alikeFurther, fun place => ?_⟩
      exact rel_trans (parts place) (partsFurther place) fun part found _ _ => ih place part found

/-- A value is equal to itself unless it reaches something that is not. -/
theorem equals_self_iff (value : Value) :
    value.Equals value ↔ ∀ part, value.Reaches part → ¬part.IsIncomparable := by
  induction value using induction_parts with
  | step value ih =>
      rw [Equals, beq_iff, resembles_self_iff]
      constructor
      · rintro ⟨comparable, parts⟩ inner reaches
        cases reaches with
        | here => exact comparable
        | @inside _ part _ place found reaches =>
            have self := parts place
            rw [found, Option.rel_some_some] at self
            exact (ih place part found).mp self inner reaches
      · intro comparable
        refine ⟨comparable value .here, fun place => ?_⟩
        cases found : value.part? place with
        | none => exact .none
        | some part =>
            refine .some ((ih place part found).mpr fun inner reaches => ?_)
            exact comparable inner (.inside found reaches)

/-- Equality is symmetric and transitive, and it is reflexive just where no `NaN` and no promise is
reached through items and visible members. A function is equal to itself only. -/
theorem equality_is_partial_equivalence (first second third : Value) :
    ((first == second) = true → (second == first) = true) ∧
      ((first == second) = true → (second == third) = true → (first == third) = true) ∧
      ((first == first) = true ↔ ¬∃ part, first.Reaches part ∧ part.IsIncomparable) ∧
      ∀ callable, (Value.function callable == first) = true ↔ first = .function callable := by
  refine ⟨Equals.symm, Equals.trans, ?_, fun callable => ?_⟩
  · rw [← Equals, equals_self_iff]
    simp only [not_exists, not_and]
  · rw [beq_iff]
    cases first <;> simp [Resembles, part?, eq_comm]

/-- A layer shows a zero in place of a promise; the other objects have a zero of either sign and
nothing to hide. The layered object is equal to itself. -/
theorem equality_is_partial_equivalence_of_hidden_promise :
    let layered := Value.object (.layer [("size", .number 0.0)] (.root [("size", .promise ⟨0⟩)]))
    let negative := Value.object (.root [("size", .number (-0.0))])
    let positive := Value.object (.root [("size", .number 0.0)])
    (layered == negative) = true ∧ (negative == positive) = true ∧
      (negative == layered) = true ∧ (layered == positive) = true ∧
      (layered == layered) = true ∧ ¬∃ part, layered.Reaches part ∧ part.IsIncomparable := by
  intro layered negative positive
  have first : (layered == negative) = true := rfl
  have second : (negative == positive) = true := rfl
  have back := (equality_is_partial_equivalence layered negative positive).1 first
  have self := (equality_is_partial_equivalence layered negative layered).2.1 first back
  refine ⟨first, second, back, ?_, self, ?_⟩
  · exact (equality_is_partial_equivalence layered negative positive).2.1 first second
  · exact (equality_is_partial_equivalence layered negative positive).2.2.1.mp self

end Value

end CallContracts
