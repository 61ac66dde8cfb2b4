import CallContracts.Proofs.Rounding
import CallContracts.Proofs.ValueEquality
import CallContracts.Value.OfJson

/-!
# JSON data as values

JSON data has parts like a value: the items of an array, and under each key of an object the last
member that is written with it. Conversion goes part by part, so the parts of a converted value are
the converted parts. With equality of values, which goes part by part as well, this says when two
pieces of data convert to equal values: when they are the same data apart from the order of members
and from what is lost where numbers are rounded to doubles.

Conversion yields plain data. Whole numbers are always finite once they are rounded, so only the
other numbers have to be finite.
-/

namespace CallContracts

namespace JsonNumber

/-- The numbers are rounded to the same number, or to zeros of either sign. -/
def RoundsLike (left right : JsonNumber) : Prop :=
  left.toFloat = right.toFloat ∨ Number.IsZero left.toFloat ∧ Number.IsZero right.toFloat

theorem isFinite_toFloat (number : JsonNumber)
    (finite : ∀ value, number = .float value → value.isFinite = true) :
    number.toFloat.isFinite = true := by
  cases number with
  | whole value =>
      rw [toFloat]
      split
      · exact Number.isFinite_neg (Number.isFinite_toFloat _)
      · exact Number.isFinite_toFloat _
  | float value => exact finite value rfl

/-- Whole numbers have 64 bits, and other numbers are finite. -/
def IsKept : JsonNumber → Prop
  | .whole value => value.natAbs < 2 ^ 64
  | .float value => value.isFinite = true

/-- The double that a number is rounded to. -/
def RoundsTo : JsonNumber → ℚ → Prop
  | .whole value, rounded => Number.RoundsTo value rounded
  | .float value, rounded => Number.value value = rounded

theorem IsKept.isFinite_toFloat {number : JsonNumber} (isKept : number.IsKept) :
    number.toFloat.isFinite = true :=
  number.isFinite_toFloat fun _ float => by rwa [float] at isKept

/-- Numbers become floating-point numbers that stand for what they are rounded to. -/
theorem roundsTo_value_toFloat {number : JsonNumber} (isKept : number.IsKept) :
    number.RoundsTo (Number.value number.toFloat) := by
  cases number with
  | float value => rfl
  | whole value =>
      have fits : value.natAbs.toUInt64.toNat = value.natAbs := UInt64.toNat_ofNat_of_lt' isKept
      have rounds := Number.roundsTo_value_toFloat value.natAbs.toUInt64
      rw [fits, Nat.cast_natAbs, Int.cast_abs] at rounds
      rw [RoundsTo, toFloat]
      split
      case isTrue negative =>
        rw [abs_of_neg (Int.cast_lt_zero.mpr negative)] at rounds
        rw [Number.value_neg (Number.isFinite_toFloat _), ← neg_neg (value : ℚ)]
        exact rounds.neg
      case isFalse notNegative =>
        rw [abs_of_nonneg (Int.cast_nonneg (not_lt.mp notNegative))] at rounds
        exact rounds

theorem RoundsTo.unique {number : JsonNumber} {left right : ℚ} (leftRounds : number.RoundsTo left)
    (rightRounds : number.RoundsTo right) : left = right := by
  cases number with
  | whole value => exact Number.RoundsTo.unique leftRounds rightRounds
  | float value => exact leftRounds.symm.trans rightRounds

theorem roundsLike_iff {left right : JsonNumber} (finite : left.toFloat.isFinite = true) :
    left.RoundsLike right ↔ (left.toFloat == right.toFloat) = true :=
  (Number.beq_iff_of_isFinite finite).symm

/-- Numbers are rounded alike if there is one double that both are rounded to. -/
theorem roundsLike_iff_roundsTo {left right : JsonNumber} (leftKept : left.IsKept)
    (rightKept : right.IsKept) :
    left.RoundsLike right ↔ ∃ rounded, left.RoundsTo rounded ∧ right.RoundsTo rounded := by
  have leftRounds := roundsTo_value_toFloat leftKept
  have rightRounds := roundsTo_value_toFloat rightKept
  rw [roundsLike_iff leftKept.isFinite_toFloat,
    Number.beq_iff_value_eq leftKept.isFinite_toFloat rightKept.isFinite_toFloat]
  constructor
  · exact fun same => ⟨_, leftRounds, same ▸ rightRounds⟩
  · rintro ⟨rounded, left, right⟩
    exact (leftRounds.unique left).trans (right.unique rightRounds)

end JsonNumber

namespace Json

/-- The member under a key of an object: the last one, if there are several. -/
def lastMember? (key : String) (members : List (String × Json)) : Option Json :=
  members.reverse.lookup key

/-- The same data up to the order of members and the rounding of numbers. -/
inductive SameData : Json → Json → Prop
  | null : SameData .null .null
  | bool (value : Bool) : SameData (.bool value) (.bool value)
  | number {left right : JsonNumber} (rounds : left.RoundsLike right) :
      SameData (.number left) (.number right)
  | string (value : String) : SameData (.string value) (.string value)
  | array {lefts rights : List Json} (items : List.Forall₂ SameData lefts rights) :
      SameData (.array lefts) (.array rights)
  | object {lefts rights : List (String × Json)}
      (members : ∀ key, Option.Rel SameData (lastMember? key lefts) (lastMember? key rights)) :
      SameData (.object lefts) (.object rights)

/-- The part at a place. -/
def part? : Json → Place → Option Json
  | .array items, .item index => items[index]?
  | .object members, .member key => lastMember? key members
  | _, _ => none

/-- Numbers that are not whole are finite, at any depth. -/
inductive HasFiniteNumbers : Json → Prop
  | intro {json : Json} (here : ∀ value, json = .number (.float value) → value.isFinite = true)
      (inside : ∀ place part, json.part? place = some part → part.HasFiniteNumbers) :
      json.HasFiniteNumbers

namespace HasFiniteNumbers

theorem whole (value : Int) : (Json.number (.whole value)).HasFiniteNumbers := by
  refine .intro (fun value float => ?_) fun place part found => ?_
  · cases float
  · cases place <;> cases found

theorem float {value : Float} (finite : value.isFinite = true) :
    (Json.number (.float value)).HasFiniteNumbers := by
  refine .intro (fun value float => ?_) fun place part found => ?_
  · cases float
    exact finite
  · cases place <;> cases found

theorem array {items : List Json} (finite : ∀ item ∈ items, item.HasFiniteNumbers) :
    (Json.array items).HasFiniteNumbers := by
  refine .intro (fun value float => ?_) fun place part found => ?_
  · cases float
  · cases place with
    | item index => exact finite part (List.mem_of_getElem? found)
    | member key => cases found

theorem object {members : List (String × Json)}
    (finite : ∀ member ∈ members, member.2.HasFiniteNumbers) :
    (Json.object members).HasFiniteNumbers := by
  refine .intro (fun value float => ?_) fun place part found => ?_
  · cases float
  · cases place with
    | item index => cases found
    | member key =>
        rcases List.lookup_eq_some_iff.mp found with ⟨before, behind, split, -⟩
        have listed : (key, part) ∈ members.reverse := by simp [split]
        exact finite _ (List.mem_reverse.mp listed)

end HasFiniteNumbers

end Json

/-! ## Parts of converted data -/

namespace Object

theorem get?_insertAll (members : List (String × Value)) (object : Object) (key : String) :
    (insertAll members object).get? key = (members.reverse.lookup key).or (object.get? key) := by
  induction members generalizing object with
  | nil => rfl
  | cons member members ih =>
      rcases member with ⟨first, value⟩
      have shown := ih (object.insert first value)
      rw [insertAll] at shown ⊢
      rw [List.foldl_cons, shown, get?_insert, List.reverse_cons, List.lookup_append,
        Option.or_assoc, List.lookup_cons]
      by_cases same : first = key
      · simp [same]
      · have differs : (key == first) = false := beq_false_of_ne (Ne.symm same)
        simp [same, differs]

end Object

namespace Value

theorem ofJsonList_eq_map (items : List Json) : ofJsonList items = items.map ofJson := by
  induction items with
  | nil => rfl
  | cons item items ih => rw [ofJsonList, ih, List.map_cons]

theorem ofJsonMembers_eq_map (members : List (String × Json)) :
    ofJsonMembers members = members.map fun (key, json) => (key, ofJson json) := by
  induction members with
  | nil => rfl
  | cons member members ih => rw [ofJsonMembers, ih, List.map_cons]

theorem lookup_map_ofJson (members : List (String × Json)) (key : String) :
    (members.map fun (key, json) => (key, ofJson json)).lookup key =
      (members.lookup key).map ofJson := by
  induction members with
  | nil => rfl
  | cons member members ih =>
      rw [List.map_cons, List.lookup_cons, List.lookup_cons, ih]
      cases key == member.1 <;> rfl

/-- Conversion goes part by part. -/
theorem part?_ofJson (json : Json) (place : Place) :
    (ofJson json).part? place = (json.part? place).map ofJson := by
  cases json with
  | array items =>
      cases place with
      | item index => simp [ofJson, part?, Json.part?, ofJsonList_eq_map]
      | member key => rfl
  | object members =>
      cases place with
      | item index => rfl
      | member key =>
          simp only [ofJson, part?, Json.part?, Json.lastMember?]
          rw [Object.get?_insertAll, ofJsonMembers_eq_map, ← List.map_reverse, lookup_map_ofJson]
          simp [Object.empty, Object.get?]
  | _ => cases place <;> rfl

/-- Data without anything that only a running program has, and with finite numbers. -/
def IsPlain : Value → Prop
  | .undefined => False
  | .number value => value.isFinite = true
  | .function _ => False
  | .promise _ => False
  | _ => True

theorem not_isIncomparable_of_isPlain {value : Value} (plain : value.IsPlain) :
    ¬value.IsIncomparable := by
  cases value with
  | number value =>
      have isNumber := Number.ne_nan_of_isFinite plain
      simp [IsIncomparable, isNumber]
  | promise promise => exact plain.elim
  | _ => simp [IsIncomparable]

section Conversion

variable {json : Json}

theorem isPlain_ofJson
    (finite : ∀ value, json = .number (.float value) → value.isFinite = true) :
    (ofJson json).IsPlain := by
  cases json with
  | number number =>
      exact number.isFinite_toFloat fun value float => finite value (float ▸ rfl)
  | _ => trivial

theorem isPlain_of_reaches (finite : json.HasFiniteNumbers) {part : Value}
    (reaches : (ofJson json).Reaches part) : part.IsPlain := by
  induction finite with
  | intro here inside ih =>
      cases reaches with
      | here => exact isPlain_ofJson here
      | inside found reaches =>
          rw [part?_ofJson, Option.map_eq_some_iff] at found
          rcases found with ⟨inner, found, rfl⟩
          exact ih _ inner found reaches

theorem resembles_and_rel_of_sameData {other : Json} (same : json.SameData other)
    (finite : ∀ value, json = .number (.float value) → value.isFinite = true) :
    (ofJson json).Resembles (ofJson other) ∧
      ∀ place, Option.Rel Json.SameData (json.part? place) (other.part? place) := by
  cases same with
  | null => exact ⟨trivial, fun place => by cases place <;> exact .none⟩
  | bool value => exact ⟨rfl, fun place => by cases place <;> exact .none⟩
  | @number left right rounds =>
      have leftFinite := left.isFinite_toFloat fun value float => finite value (float ▸ rfl)
      refine ⟨(JsonNumber.roundsLike_iff leftFinite).mp rounds, fun place => ?_⟩
      cases place <;> exact .none
  | string value => exact ⟨rfl, fun place => by cases place <;> exact .none⟩
  | array items =>
      refine ⟨trivial, fun place => ?_⟩
      cases place with
      | item index => exact forall₂_iff_rel_getElem?.mp items index
      | member key => exact .none
  | object members =>
      refine ⟨trivial, fun place => ?_⟩
      cases place with
      | item index => exact .none
      | member key => exact members key

theorem sameData_of_resembles {other : Json}
    (finite : ∀ value, json = .number (.float value) → value.isFinite = true)
    (alike : (ofJson json).Resembles (ofJson other))
    (parts : ∀ place, Option.Rel Json.SameData (json.part? place) (other.part? place)) :
    json.SameData other := by
  cases json with
  | null =>
      cases other with
      | null => exact .null
      | _ => exact alike.elim
  | bool value =>
      cases other with
      | bool value => exact alike ▸ .bool _
      | _ => exact alike.elim
  | number left =>
      cases other with
      | number right =>
          have leftFinite := left.isFinite_toFloat fun value float => finite value (float ▸ rfl)
          exact .number ((JsonNumber.roundsLike_iff leftFinite).mpr alike)
      | _ => exact alike.elim
  | string value =>
      cases other with
      | string value => exact alike ▸ .string _
      | _ => exact alike.elim
  | array items =>
      cases other with
      | array others =>
          exact .array (forall₂_iff_rel_getElem?.mpr fun index => parts (.item index))
      | _ => exact alike.elim
  | object members =>
      cases other with
      | object others => exact .object fun key => parts (.member key)
      | _ => exact alike.elim

theorem rel_map_ofJson_iff {first second : Option Json}
    (decides : ∀ part, first = some part → ∀ other,
      (ofJson part).Equals (ofJson other) ↔ part.SameData other) :
    Option.Rel Equals (first.map ofJson) (second.map ofJson) ↔
      Option.Rel Json.SameData first second := by
  cases first <;> cases second <;> simp [decides]

theorem equals_ofJson_iff (finite : json.HasFiniteNumbers) (other : Json) :
    (ofJson json).Equals (ofJson other) ↔ json.SameData other := by
  induction finite generalizing other with
  | intro here inside ih =>
      rw [Equals, beq_iff]
      simp only [part?_ofJson]
      constructor
      · rintro ⟨alike, parts⟩
        refine sameData_of_resembles here alike fun place => ?_
        exact (rel_map_ofJson_iff (ih place)).mp (parts place)
      · intro same
        rcases resembles_and_rel_of_sameData same here with ⟨alike, parts⟩
        exact ⟨alike, fun place => (rel_map_ofJson_iff (ih place)).mpr (parts place)⟩

/-- Data with finite numbers converts to plain values, at any depth, which are equal to themselves.
Two pieces of data convert to equal values if they are the same data, where numbers are the same if
they are rounded to the same double. -/
theorem ofJson_is_faithful (json other : Json) (finite : json.HasFiniteNumbers) :
    (∀ part, (ofJson json).Reaches part → part.IsPlain) ∧
      (ofJson json == ofJson json) = true ∧
      ((ofJson json == ofJson other) = true ↔ json.SameData other) ∧
      ∀ left right : JsonNumber, left.IsKept → right.IsKept →
        (left.RoundsLike right ↔ ∃ rounded, left.RoundsTo rounded ∧ right.RoundsTo rounded) := by
  have plain (part : Value) (reaches : (ofJson json).Reaches part) : part.IsPlain :=
    isPlain_of_reaches finite reaches
  refine ⟨plain, ?_, equals_ofJson_iff finite other,
    fun _ _ => JsonNumber.roundsLike_iff_roundsTo⟩
  apply (equals_self_iff _).mpr
  intro part reaches
  exact not_isIncomparable_of_isPlain (plain part reaches)

/-- A key is written twice, members change places, a whole number is rounded to its neighbour and
zeros differ in sign. -/
theorem ofJson_is_faithful_of_rounded :
    let left := Json.object [("size", .number (.float 0.5)), ("zeros", .array [.number (.whole 0)]),
      ("size", .number (.whole 9007199254740993))]
    let right := Json.object [("size", .number (.whole 9007199254740992)),
      ("zeros", .array [.number (.float (-0.0))])]
    left.HasFiniteNumbers ∧ left.SameData right ∧ (ofJson left == ofJson right) = true ∧
      (ofJson left == ofJson left) = true ∧
      ∃ rounded, JsonNumber.RoundsTo (.whole 9007199254740993) rounded ∧
        JsonNumber.RoundsTo (.whole 9007199254740992) rounded := by
  intro left right
  have finite : left.HasFiniteNumbers := by
    refine .object fun member listed => ?_
    simp only [List.mem_cons, List.not_mem_nil, or_false] at listed
    rcases listed with rfl | rfl | rfl
    · exact .float rfl
    · refine .array fun item listed => ?_
      rw [List.mem_singleton.mp listed]
      exact .whole 0
    · exact .whole _
  have equal : (ofJson left == ofJson right) = true := rfl
  rcases ofJson_is_faithful left right finite with ⟨-, self, decides, rounds⟩
  have alike : JsonNumber.RoundsLike (.whole 9007199254740993) (.whole 9007199254740992) :=
    Or.inl rfl
  have kept : JsonNumber.IsKept (.whole 9007199254740993) := by simp [JsonNumber.IsKept]
  have otherKept : JsonNumber.IsKept (.whole 9007199254740992) := by simp [JsonNumber.IsKept]
  exact ⟨finite, decides.mp equal, equal, self, (rounds _ _ kept otherKept).mp alike⟩

end Conversion

end Value

end CallContracts
