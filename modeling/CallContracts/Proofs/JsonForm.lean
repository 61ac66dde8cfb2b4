import CallContracts.Proofs.JsonTexts
import CallContracts.Signature.Json

/-!
# The JSON form of signatures

JSON data stands for a type if it is the keyword of the type, or an object whose members say so: the
kind under `type`, the parts under keys of their own. Only what is found under these keys counts, so
members may stand in any order. Two orders are in use: the one in which the data is built, and key
order.

Reading the data back finds the type in each such writing of it. So no data stands for two types,
and types with the same form are equal, with the names of all parameters, whatever these are. The
data has no numbers, so nothing is lost in its text either.
-/

namespace CallContracts

/-! ## What JSON data stands for -/

mutual

/-- The JSON data stands for the type. -/
inductive TypeExpr.WrittenAs : TypeExpr → Json → Prop where
  | keyword (kind : Primitive) : TypeExpr.WrittenAs (.primitive kind) (.string kind.keyword)
  | array {element : TypeExpr} {members : List (String × Json)} {json : Json}
      (tag : Json.member? "type" members = some (.string "array"))
      (under : Json.member? "element" members = some json)
      (written : TypeExpr.WrittenAs element json) :
      TypeExpr.WrittenAs (.array element) (.object members)
  | tuple {elements : List TypeExpr} {members : List (String × Json)} {items : List Json}
      (tag : Json.member? "type" members = some (.string "tuple"))
      (under : Json.member? "elements" members = some (.array items))
      (written : List.Forall₂ TypeExpr.WrittenAs elements items) :
      TypeExpr.WrittenAs (.tuple elements) (.object members)
  | promise {inner : TypeExpr} {members : List (String × Json)} {json : Json}
      (tag : Json.member? "type" members = some (.string "promise"))
      (under : Json.member? "inner" members = some json)
      (written : TypeExpr.WrittenAs inner json) :
      TypeExpr.WrittenAs (.promise inner) (.object members)
  | function {signature : Signature} {json : Json} (written : Signature.WrittenAs signature json) :
      TypeExpr.WrittenAs (.function signature) json

/-- The JSON data stands for the parameter. -/
inductive Parameter.WrittenAs : Parameter → Json → Prop where
  | intro {name : Option String} {optional : Bool} {type : TypeExpr}
      {members : List (String × Json)} {json : Json}
      (named : Json.member? "name" members = name.map .string)
      (marked : Json.member? "optional" members = some (.bool optional))
      (under : Json.member? "type" members = some json)
      (written : TypeExpr.WrittenAs type json) :
      Parameter.WrittenAs ⟨name, optional, type⟩ (.object members)

/-- The JSON data stands for the signature. -/
inductive Signature.WrittenAs : Signature → Json → Prop where
  | intro {isAsync : Bool} {parameters : List Parameter} {returns : TypeExpr}
      {members : List (String × Json)} {items : List Json} {json : Json}
      (tag : Json.member? "type" members = some (.string "function"))
      (marked : Json.member? "async" members = some (.bool isAsync))
      (listed : Json.member? "parameters" members = some (.array items))
      (each : List.Forall₂ Parameter.WrittenAs parameters items)
      (under : Json.member? "return" members = some json)
      (returned : TypeExpr.WrittenAs returns json) :
      Signature.WrittenAs ⟨isAsync, parameters, returns⟩ (.object members)

end

/-! ## Reading looks members up -/

section Lookups

variable (key : String) (members : List (String × Json))

theorem TypeExpr.memberOfJson?_eq_bind :
    TypeExpr.memberOfJson? key members = (Json.member? key members).bind TypeExpr.ofJson? := by
  induction members with
  | nil => rfl
  | cons member members ih =>
      simp only [TypeExpr.memberOfJson?, Json.member?, ih]
      split <;> rfl

theorem TypeExpr.elementsOfJson?_eq_bind :
    TypeExpr.elementsOfJson? members =
      (Json.member? "elements" members).bind TypeExpr.arrayOfJson? := by
  induction members with
  | nil => rfl
  | cons member members ih =>
      simp only [TypeExpr.elementsOfJson?, Json.member?, ih]
      split <;> rfl

theorem Parameter.membersOfJson?_eq_bind :
    Parameter.membersOfJson? members =
      (Json.member? "parameters" members).bind Parameter.arrayOfJson? := by
  induction members with
  | nil => rfl
  | cons member members ih =>
      simp only [Parameter.membersOfJson?, Json.member?, ih]
      split <;> rfl

end Lookups

/-! ## Every writing is read back -/

mutual

theorem TypeExpr.ofJson?_of_writtenAs (type : TypeExpr) (json : Json)
    (written : type.WrittenAs json) : TypeExpr.ofJson? json = some type := by
  cases type with
  | primitive kind =>
      cases written
      simp [TypeExpr.ofJson?, Primitive.ofKeyword?_keyword]
  | array element =>
      cases written with
      | array tag under written =>
          simp [TypeExpr.ofJson?, TypeExpr.memberOfJson?_eq_bind, tag, under,
            element.ofJson?_of_writtenAs _ written]
  | tuple elements =>
      cases written with
      | tuple tag under written =>
          simp [TypeExpr.ofJson?, TypeExpr.elementsOfJson?_eq_bind, TypeExpr.arrayOfJson?, tag,
            under, TypeExpr.listOfJson?_of_writtenAs elements _ written]
  | promise inner =>
      cases written with
      | promise tag under written =>
          simp [TypeExpr.ofJson?, TypeExpr.memberOfJson?_eq_bind, tag, under,
            inner.ofJson?_of_writtenAs _ written]
  | function signature =>
      cases written with
      | function written => exact signature.typeOfJson?_of_writtenAs _ written
termination_by structural type

theorem TypeExpr.listOfJson?_of_writtenAs (types : List TypeExpr) (items : List Json)
    (written : List.Forall₂ TypeExpr.WrittenAs types items) :
    TypeExpr.listOfJson? items = some types := by
  cases types with
  | nil =>
      cases written
      rfl
  | cons type types =>
      cases written with
      | cons first others =>
          simp [TypeExpr.listOfJson?, type.ofJson?_of_writtenAs _ first,
            TypeExpr.listOfJson?_of_writtenAs types _ others]
termination_by structural types

theorem Parameter.ofJson?_of_writtenAs (parameter : Parameter) (json : Json)
    (written : parameter.WrittenAs json) : Parameter.ofJson? json = some parameter := by
  rcases parameter with ⟨name, optional, type⟩
  cases written with
  | intro named marked under written =>
      have read := type.ofJson?_of_writtenAs _ written
      cases name <;>
        simp [Parameter.ofJson?, TypeExpr.memberOfJson?_eq_bind, named, marked, under, read]
termination_by structural parameter

theorem Parameter.listOfJson?_of_writtenAs (parameters : List Parameter) (items : List Json)
    (written : List.Forall₂ Parameter.WrittenAs parameters items) :
    Parameter.listOfJson? items = some parameters := by
  cases parameters with
  | nil =>
      cases written
      rfl
  | cons parameter parameters =>
      cases written with
      | cons first others =>
          simp [Parameter.listOfJson?, parameter.ofJson?_of_writtenAs _ first,
            Parameter.listOfJson?_of_writtenAs parameters _ others]
termination_by structural parameters

theorem Signature.typeOfJson?_of_writtenAs (signature : Signature) (json : Json)
    (written : signature.WrittenAs json) : TypeExpr.ofJson? json = some (.function signature) := by
  rcases signature with ⟨isAsync, parameters, returns⟩
  cases written with
  | intro tag marked listed each under returned =>
      simp [TypeExpr.ofJson?, TypeExpr.memberOfJson?_eq_bind, Parameter.membersOfJson?_eq_bind,
        Parameter.arrayOfJson?, tag, marked, listed, under,
        Parameter.listOfJson?_of_writtenAs parameters _ each,
        returns.ofJson?_of_writtenAs _ returned]
termination_by structural signature

end

theorem Signature.ofJson?_of_writtenAs {signature : Signature} {json : Json}
    (written : signature.WrittenAs json) : Signature.ofJson? json = some signature := by
  simp [Signature.ofJson?, signature.typeOfJson?_of_writtenAs json written]

/-! ## The two orders of members -/

namespace Json

variable {members : List (String × Json)}

theorem member?_eq_none_of_not_mem {key : String} (absent : key ∉ members.map Prod.fst) :
    member? key members = none := by
  induction members with
  | nil => rfl
  | cons member members ih =>
      rw [List.map_cons, List.mem_cons, not_or] at absent
      rw [member?, if_neg (Ne.symm absent.1), ih absent.2]

theorem find?_foldl_insert (distinct : (members.map Prod.fst).Nodup) (key : String)
    (table : Members Json) :
    Members.find? key (members.foldl (fun table (key, value) => table.insert key value) table) =
      (member? key members).or (Members.find? key table) := by
  induction members generalizing table with
  | nil => rfl
  | cons member members ih =>
      rw [List.map_cons, List.nodup_cons] at distinct
      rw [List.foldl_cons, ih distinct.2, Members.find?_insert, member?]
      split
      · rename_i same
        rw [member?_eq_none_of_not_mem (same ▸ distinct.1)]
        rfl
      · rfl

theorem keys_sortedMembers (members : List (String × Json)) :
    (sortedMembers members).map Prod.fst = members.map Prod.fst := by
  rw [sortedMembers_eq_map, List.map_map]
  rfl

theorem member?_sortedMembers (members : List (String × Json)) (key : String) :
    member? key (sortedMembers members) = (member? key members).map sorted := by
  induction members with
  | nil => rfl
  | cons member members ih =>
      rw [sortedMembers, member?, member?, ih]
      split <;> rfl

/-- What is under a key of an object is under that key when the members are in key order. -/
theorem member?_sorted (distinct : (members.map Prod.fst).Nodup) (key : String) :
    member? key (Members.ofList (sortedMembers members)) = (member? key members).map sorted := by
  have lookedUp := find?_foldl_insert (keys_sortedMembers members ▸ distinct) key []
  rw [Members.find?_nil, Option.or_none, member?_sortedMembers] at lookedUp
  rw [← lookedUp, Members.ofList]
  generalize List.foldl _ _ _ = table
  induction table with
  | nil => rfl
  | cons member table ih => rw [member?, Members.find?, ih]

end Json

mutual

theorem TypeExpr.writtenAs_toJson (type : TypeExpr) :
    type.WrittenAs type.toJson ∧ type.WrittenAs type.toJson.sorted := by
  cases type with
  | primitive kind => exact ⟨.keyword kind, .keyword kind⟩
  | array element =>
      rcases element.writtenAs_toJson with ⟨built, sorted⟩
      refine ⟨.array rfl rfl built, ?_⟩
      exact .array (Json.member?_sorted (by simp) _) (Json.member?_sorted (by simp) _) sorted
  | tuple elements =>
      rcases TypeExpr.writtenAs_toJsonList elements with ⟨built, sorted⟩
      refine ⟨.tuple rfl rfl built, ?_⟩
      exact .tuple (Json.member?_sorted (by simp) _) (Json.member?_sorted (by simp) _) sorted
  | promise inner =>
      rcases inner.writtenAs_toJson with ⟨built, sorted⟩
      refine ⟨.promise rfl rfl built, ?_⟩
      exact .promise (Json.member?_sorted (by simp) _) (Json.member?_sorted (by simp) _) sorted
  | function signature =>
      rcases signature.writtenAs_toJson with ⟨built, sorted⟩
      exact ⟨.function built, .function sorted⟩
termination_by structural type

theorem TypeExpr.writtenAs_toJsonList (types : List TypeExpr) :
    List.Forall₂ TypeExpr.WrittenAs types (TypeExpr.toJsonList types) ∧
      List.Forall₂ TypeExpr.WrittenAs types (Json.sortedItems (TypeExpr.toJsonList types)) := by
  cases types with
  | nil => exact ⟨.nil, .nil⟩
  | cons type types =>
      rcases type.writtenAs_toJson with ⟨built, sorted⟩
      rcases TypeExpr.writtenAs_toJsonList types with ⟨others, othersSorted⟩
      exact ⟨.cons built others, .cons sorted othersSorted⟩
termination_by structural types

theorem Parameter.writtenAs_toJson (parameter : Parameter) :
    parameter.WrittenAs parameter.toJson ∧ parameter.WrittenAs parameter.toJson.sorted := by
  rcases parameter with ⟨name, optional, type⟩
  rcases type.writtenAs_toJson with ⟨built, sorted⟩
  cases name with
  | none =>
      refine ⟨.intro rfl rfl rfl built, ?_⟩
      exact .intro (Json.member?_sorted (by simp) _) (Json.member?_sorted (by simp) _)
        (Json.member?_sorted (by simp) _) sorted
  | some name =>
      refine ⟨.intro rfl rfl rfl built, ?_⟩
      exact .intro (Json.member?_sorted (by simp) _) (Json.member?_sorted (by simp) _)
        (Json.member?_sorted (by simp) _) sorted
termination_by structural parameter

theorem Parameter.writtenAs_toJsonList (parameters : List Parameter) :
    List.Forall₂ Parameter.WrittenAs parameters (Parameter.toJsonList parameters) ∧
      List.Forall₂ Parameter.WrittenAs parameters
        (Json.sortedItems (Parameter.toJsonList parameters)) := by
  cases parameters with
  | nil => exact ⟨.nil, .nil⟩
  | cons parameter parameters =>
      rcases parameter.writtenAs_toJson with ⟨built, sorted⟩
      rcases Parameter.writtenAs_toJsonList parameters with ⟨others, othersSorted⟩
      exact ⟨.cons built others, .cons sorted othersSorted⟩
termination_by structural parameters

theorem Signature.writtenAs_toJson (signature : Signature) :
    signature.WrittenAs signature.toJson ∧ signature.WrittenAs signature.toJson.sorted := by
  rcases signature with ⟨isAsync, parameters, returns⟩
  rcases Parameter.writtenAs_toJsonList parameters with ⟨each, eachSorted⟩
  rcases returns.writtenAs_toJson with ⟨built, sorted⟩
  refine ⟨.intro rfl rfl rfl each rfl built, ?_⟩
  exact .intro (Json.member?_sorted (by simp) _) (Json.member?_sorted (by simp) _)
    (Json.member?_sorted (by simp) _) eachSorted (Json.member?_sorted (by simp) _) sorted
termination_by structural signature

end

/-! ## No numbers, and only so many levels -/

theorem Json.exists_fits_cons {item : Json} {items : List Json}
    (first : ∃ depth, item.Fits depth) (others : ∃ depth, ∀ item ∈ items, item.Fits depth) :
    ∃ depth, ∀ other ∈ item :: items, other.Fits depth := by
  rcases first with ⟨depth, fits⟩
  rcases others with ⟨deeper, fit⟩
  exact ⟨max depth deeper, List.forall_mem_cons.mpr ⟨fits.mono (Nat.le_max_left _ _),
    fun other member => (fit other member).mono (Nat.le_max_right _ _)⟩⟩

mutual

theorem TypeExpr.exists_fits (type : TypeExpr) : ∃ depth, type.toJson.Fits depth := by
  cases type with
  | primitive kind => exact ⟨0, .string _⟩
  | array element =>
      rcases element.exists_fits with ⟨depth, fits⟩
      refine ⟨depth + 1, .object ?_⟩
      simp only [List.forall_mem_cons]
      exact ⟨.string _, fits, by simp⟩
  | tuple elements =>
      rcases TypeExpr.exists_fits_list elements with ⟨depth, fits⟩
      refine ⟨depth + 2, .object ?_⟩
      simp only [List.forall_mem_cons]
      exact ⟨.string _, .array fits, by simp⟩
  | promise inner =>
      rcases inner.exists_fits with ⟨depth, fits⟩
      refine ⟨depth + 1, .object ?_⟩
      simp only [List.forall_mem_cons]
      exact ⟨.string _, fits, by simp⟩
  | function signature => exact signature.exists_fits
termination_by structural type

theorem TypeExpr.exists_fits_list (types : List TypeExpr) :
    ∃ depth, ∀ item ∈ TypeExpr.toJsonList types, item.Fits depth := by
  cases types with
  | nil => exact ⟨0, by simp [TypeExpr.toJsonList]⟩
  | cons type types =>
      exact Json.exists_fits_cons type.exists_fits (TypeExpr.exists_fits_list types)
termination_by structural types

theorem Parameter.exists_fits (parameter : Parameter) : ∃ depth, parameter.toJson.Fits depth := by
  rcases parameter with ⟨name, optional, type⟩
  rcases type.exists_fits with ⟨depth, fits⟩
  refine ⟨depth + 1, ?_⟩
  cases name with
  | none =>
      refine .object ?_
      simp only [List.forall_mem_cons]
      exact ⟨.bool _, fits, by simp⟩
  | some name =>
      refine .object ?_
      simp only [List.forall_mem_cons]
      exact ⟨.bool _, fits, .string _, by simp⟩
termination_by structural parameter

theorem Parameter.exists_fits_list (parameters : List Parameter) :
    ∃ depth, ∀ item ∈ Parameter.toJsonList parameters, item.Fits depth := by
  cases parameters with
  | nil => exact ⟨0, by simp [Parameter.toJsonList]⟩
  | cons parameter parameters =>
      exact Json.exists_fits_cons parameter.exists_fits (Parameter.exists_fits_list parameters)
termination_by structural parameters

theorem Signature.exists_fits (signature : Signature) : ∃ depth, signature.toJson.Fits depth := by
  rcases signature with ⟨isAsync, parameters, returns⟩
  rcases Parameter.exists_fits_list parameters with ⟨depth, fit⟩
  rcases returns.exists_fits with ⟨behind, fits⟩
  refine ⟨max (depth + 1) behind + 1, .object ?_⟩
  simp only [List.forall_mem_cons]
  exact ⟨.string _, .bool _, (Json.Fits.array fit).mono (Nat.le_max_left _ _),
    fits.mono (Nat.le_max_right _ _), by simp⟩
termination_by structural signature

end

/-! ## Nothing is lost -/

namespace Json

/-- Reading finds the value in its JSON form: in the data, in the data in key order, and in the text
of either, if the reader allows enough levels of nesting. -/
structure Recovers {α : Type} (reading : Json → Option α) (form : α → Json) : Prop where
  data (value : α) : reading (form value) = some value
  ordered (value : α) : reading (form value).sorted = some value
  text (value : α) : ∃ depth, ∀ deeper ≥ depth,
    (readWithin deeper (form value).pretty).bind reading = some value
  orderedText (value : α) : ∃ depth, ∀ deeper ≥ depth,
    (readWithin deeper (form value).sorted.pretty).bind reading = some value

/-- Values with the same JSON form are equal, in either order of members and in the text of each. -/
structure IsFaithful {α : Type} (form : α → Json) : Prop where
  data (left right : α) : form left = form right ↔ left = right
  ordered (left right : α) : (form left).sorted = (form right).sorted ↔ left = right
  text (left right : α) : (form left).pretty = (form right).pretty ↔ left = right
  orderedText (left right : α) :
    (form left).sorted.pretty = (form right).sorted.pretty ↔ left = right

variable {α : Type} {reading : Json → Option α} {form : α → Json}

theorem Recovers.of_fits (data : ∀ value, reading (form value) = some value)
    (ordered : ∀ value, reading (form value).sorted = some value)
    (fits : ∀ value, ∃ depth, (form value).Fits depth) : Recovers reading form where
  data := data
  ordered := ordered
  text value := by
    rcases fits value with ⟨depth, fits⟩
    refine ⟨depth, fun deeper below => ?_⟩
    rw [readWithin_pretty (fits.mono below), Option.bind_some, data]
  orderedText value := by
    rcases fits value with ⟨depth, fits⟩
    refine ⟨depth, fun deeper below => ?_⟩
    rw [readWithin_pretty (fits.sorted.mono below), Option.bind_some, ordered]

theorem eq_of_written_eq {written : α → String}
    (read : ∀ value, ∃ depth, ∀ deeper ≥ depth,
      (readWithin deeper (written value)).bind reading = some value)
    {left right : α} (same : written left = written right) : left = right := by
  rcases read left with ⟨depth, leftRead⟩
  rcases read right with ⟨other, rightRead⟩
  have found := leftRead (max depth other) (Nat.le_max_left _ _)
  rw [same, rightRead _ (Nat.le_max_right _ _)] at found
  exact (Option.some.inj found).symm

theorem Recovers.isFaithful (recovers : Recovers reading form) : IsFaithful form where
  data left right := by
    refine ⟨fun same => ?_, fun equal => by rw [equal]⟩
    rw [← Option.some_inj, ← recovers.data, same, recovers.data]
  ordered left right := by
    refine ⟨fun same => ?_, fun equal => by rw [equal]⟩
    rw [← Option.some_inj, ← recovers.ordered, same, recovers.ordered]
  text _ _ := ⟨eq_of_written_eq recovers.text, fun equal => by rw [equal]⟩
  orderedText _ _ := ⟨eq_of_written_eq recovers.orderedText, fun equal => by rw [equal]⟩

end Json

theorem TypeExpr.recovers : Json.Recovers TypeExpr.ofJson? TypeExpr.toJson :=
  .of_fits (fun type => type.ofJson?_of_writtenAs _ type.writtenAs_toJson.1)
    (fun type => type.ofJson?_of_writtenAs _ type.writtenAs_toJson.2) TypeExpr.exists_fits

theorem Signature.recovers : Json.Recovers Signature.ofJson? Signature.toJson :=
  .of_fits (fun signature => Signature.ofJson?_of_writtenAs signature.writtenAs_toJson.1)
    (fun signature => Signature.ofJson?_of_writtenAs signature.writtenAs_toJson.2)
    Signature.exists_fits

/-- The JSON form of a type or a signature loses nothing: whatever the nesting and the names of
parameters, it is read back from the data and from the text, and two of them have the same form only
if they are equal, names included. -/
theorem json_form_loses_nothing :
    Json.Recovers TypeExpr.ofJson? TypeExpr.toJson ∧
      Json.Recovers Signature.ofJson? Signature.toJson ∧
        Json.IsFaithful TypeExpr.toJson ∧ Json.IsFaithful Signature.toJson := by
  have types := TypeExpr.recovers
  have signatures := Signature.recovers
  exact ⟨types, signatures, types.isFaithful, signatures.isFaithful⟩

-- The parameter is named by a key of the form.
example :
    let signature : Signature := ⟨true, [⟨some "type", false, .primitive .string⟩], .tuple []⟩
    Signature.ofJson? signature.toJson.sorted = some signature := by
  decide

end CallContracts
