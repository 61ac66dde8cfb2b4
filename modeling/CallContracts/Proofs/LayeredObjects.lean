import CallContracts.Proofs.KeyOrder
import CallContracts.Proofs.ValueEquality

/-!
# Layering is transparent

Programs hold objects in variables: they make empty objects, copy objects, put layers over them and
insert members. Beside the objects an account is kept of each: what has been inserted into its top
layer since the layer was made, and what had been inserted into the layers below when they were
covered. Each use of the variables changes objects and accounts alike, and every question to an
object is answered by its account.

An insertion changes the object in one variable and there the member under one key. Copies that were
made before, and the object below, stay as they are.
-/

namespace CallContracts

/-- One use of objects that are held in numbered variables. -/
inductive Object.Use where
  /-- A new variable with an object without members. -/
  | create
  /-- A new variable with a copy of the object in another one. -/
  | copy (source : Nat)
  /-- A new variable with an empty layer over the object in another one. -/
  | layer (base : Nat)
  /-- A member is inserted into the object in a variable. -/
  | insert (target : Nat) (key : String) (value : Value)

/-- What is held in variables and used like objects. -/
structure Layering (α : Type) where
  empty : α
  layeredOver : α → α
  insert : String → Value → α → α

namespace Layering

variable {α β : Type}

def perform (layering : Layering α) (held : List α) : Object.Use → List α
  | .create => held ++ [layering.empty]
  | .copy source => held ++ held[source]?.toList
  | .layer base => held ++ (held[base]?.map layering.layeredOver).toList
  | .insert target key value => held.modify target (layering.insert key value)

/-- What the variables hold after several uses. -/
def run (layering : Layering α) (held : List α) (uses : List Object.Use) : List α :=
  uses.foldl layering.perform held

/-- A relation that is kept when both sides are used in the same way. -/
structure Respects (left : Layering α) (right : Layering β) (related : α → β → Prop) : Prop where
  empty : related left.empty right.empty
  layeredOver {first : α} {second : β} (both : related first second) :
    related (left.layeredOver first) (right.layeredOver second)
  insert {first : α} {second : β} (key : String) (value : Value) (both : related first second) :
    related (left.insert key value first) (right.insert key value second)

theorem forall₂_toList_getElem? {related : α → β → Prop} {lefts : List α} {rights : List β}
    (both : List.Forall₂ related lefts rights) (index : Nat) :
    List.Forall₂ related lefts[index]?.toList rights[index]?.toList := by
  have here := forall₂_iff_rel_getElem?.mp both index
  revert here
  cases lefts[index]? <;> cases rights[index]? <;> simp

theorem forall₂_modify {related : α → β → Prop} {lefts : List α} {rights : List β}
    {changeLeft : α → α} {changeRight : β → β}
    (changed : ∀ {left right}, related left right → related (changeLeft left) (changeRight right))
    (both : List.Forall₂ related lefts rights) (index : Nat) :
    List.Forall₂ related (lefts.modify index changeLeft) (rights.modify index changeRight) := by
  induction both generalizing index with
  | nil => cases index <;> exact .nil
  | cons first rest ih =>
      cases index with
      | zero => exact .cons (changed first) rest
      | succ index => exact .cons first (ih index)

variable {left : Layering α} {right : Layering β} {related : α → β → Prop}

theorem Respects.perform (respects : Respects left right related) {lefts : List α}
    {rights : List β} (both : List.Forall₂ related lefts rights) (use : Object.Use) :
    List.Forall₂ related (left.perform lefts use) (right.perform rights use) := by
  cases use with
  | create => exact List.rel_append both (.cons respects.empty .nil)
  | copy source => exact List.rel_append both (forall₂_toList_getElem? both source)
  | layer base =>
      refine List.rel_append both ?_
      rw [Option.toList_map, Option.toList_map]
      exact List.rel_map (fun _ _ covered => respects.layeredOver covered)
        (forall₂_toList_getElem? both base)
  | insert target key value => exact forall₂_modify (respects.insert key value) both target

theorem Respects.run (respects : Respects left right related) {lefts : List α} {rights : List β}
    (both : List.Forall₂ related lefts rights) (uses : List Object.Use) :
    List.Forall₂ related (left.run lefts uses) (right.run rights uses) := by
  induction uses generalizing lefts rights with
  | nil => exact both
  | cons use uses ih => exact ih (respects.perform both use)

end Layering

/-- What has been inserted into the layers of an object, into each the latest first. -/
structure Account where
  /-- What has been inserted into the top layer. -/
  inserted : List (String × Value)
  /-- What had been inserted into the layers below, from the top down. -/
  below : List (List (String × Value))

namespace Account

def layers (account : Account) : List (List (String × Value)) :=
  account.inserted :: account.below

/-- The value that was last inserted under the key in the topmost layer that has one. -/
def shown? (account : Account) (key : String) : Option Value :=
  account.layers.findSome? (List.lookup key)

def layering : Layering Account where
  empty := ⟨[], []⟩
  layeredOver account := ⟨[], account.layers⟩
  insert key value account := ⟨(key, value) :: account.inserted, account.below⟩

end Account

namespace Object

def layering : Layering Object where
  empty := .empty
  layeredOver := .layeredOver
  insert := .insert

/-- Looking up a key walks down the layers to the first that has it. -/
theorem get?_eq_findSome? (object : Object) (key : String) :
    object.get? key = object.layers.findSome? (Members.find? key) := by
  cases object with
  | root own => cases found : Members.find? key own <;> simp [get?, layers, found]
  | layer own delegate =>
      cases found : Members.find? key own <;>
        simp [get?, layers, found, get?_eq_findSome? delegate key]
termination_by structural object

theorem layers_insert (object : Object) (key : String) (value : Value) :
    (object.insert key value).layers =
      Members.insert key value object.own :: object.layers.tail := by
  cases object <;> rfl

theorem layers_eq (object : Object) : object.layers = object.own :: object.layers.tail := by
  cases object <;> rfl

/-- Each layer has what was last inserted into it. -/
def Keeps (object : Object) (account : Account) : Prop :=
  List.Forall₂ (fun own inserted => ∀ key, Members.find? key own = inserted.lookup key)
    object.layers account.layers

theorem respects_keeps : layering.Respects Account.layering Keeps where
  empty := .cons (fun _ => rfl) .nil
  layeredOver keeps := .cons (fun _ => rfl) keeps
  insert {object account} key value keeps := by
    rw [Keeps, layers_eq] at keeps
    rcases keeps with _ | ⟨top, below⟩
    change List.Forall₂ _ (object.insert key value).layers (_ :: account.below)
    rw [layers_insert]
    refine .cons (fun other => ?_) below
    change _ = List.lookup other ((key, value) :: account.inserted)
    rw [Members.find?_insert, List.lookup_cons, top other]
    by_cases same : key = other
    · simp [same]
    · have differs : (other == key) = false := beq_false_of_ne (Ne.symm same)
      simp [same, differs]

theorem Keeps.get?_eq {object : Object} {account : Account} (keeps : object.Keeps account)
    (key : String) : object.get? key = account.shown? key := by
  rw [get?_eq_findSome?, Account.shown?]
  unfold Keeps at keeps
  generalize object.layers = layers at keeps ⊢
  generalize account.layers = accounts at keeps ⊢
  induction keeps with
  | nil => rfl
  | cons same _ ih => rw [List.findSome?_cons, List.findSome?_cons, same key, ih]

/-- The entries are the visible keys, each with the value that is shown under it. -/
theorem map_entries (object : Object) :
    object.entries.map (fun (key, value) => (key, some value)) =
      object.keys.map fun key => (key, object.get? key) := by
  have shown : ∀ key ∈ object.keys, (object.get? key).isSome := by simp [mem_keys_iff]
  unfold entries
  generalize object.keys = keys at shown ⊢
  induction keys with
  | nil => rfl
  | cons key keys ih =>
      rcases Option.isSome_iff_exists.mp (shown key List.mem_cons_self) with ⟨value, found⟩
      have rest := ih fun other listed => shown other (List.mem_cons_of_mem key listed)
      simp only [List.filterMap_cons, List.map_cons, found, Option.map_some, rest]

theorem isEmpty_iff (object : Object) :
    object.isEmpty = true ↔ ∀ key, object.get? key = none := by
  simp [isEmpty, List.isEmpty_iff, List.eq_nil_iff_forall_not_mem, mem_keys_iff]

/-- Every question to an object is answered by the account of it. -/
structure Presents (object : Object) (account : Account) : Prop where
  keeps : object.Keeps account
  get?_eq (key : String) : object.get? key = account.shown? key
  ascending_keys : object.keys.Pairwise fun before behind => Text.bytes before < Text.bytes behind
  mem_keys_iff (key : String) : key ∈ object.keys ↔ ∃ value, account.shown? key = some value
  entries_eq : object.entries.map (fun (key, value) => (key, some value)) =
    object.keys.map fun key => (key, account.shown? key)
  contains_iff (key : String) :
    object.contains key = true ↔ ∃ value, account.shown? key = some value
  method?_eq_some_iff (key : String) (callable : CallableId) :
    object.method? key = some callable ↔ account.shown? key = some (.function callable)
  isEmpty_iff : object.isEmpty = true ↔ ∀ key, account.shown? key = none

theorem Keeps.presents {object : Object} {account : Account} (keeps : object.Keeps account) :
    object.Presents account where
  keeps := keeps
  get?_eq := keeps.get?_eq
  ascending_keys := object.ascending_keys.imp fun before => (Text.lt_iff_bytes_lt _ _).mp before
  mem_keys_iff key := by rw [object.mem_keys_iff, keeps.get?_eq, Option.isSome_iff_exists]
  entries_eq := by simp only [map_entries, keeps.get?_eq]
  contains_iff key := by rw [contains, keeps.get?_eq, Option.isSome_iff_exists]
  method?_eq_some_iff key callable := by rw [Object.method?_eq_some_iff, keeps.get?_eq]
  isEmpty_iff := by simp only [Object.isEmpty_iff, keeps.get?_eq]

/-- An insertion into the object in one variable: only the member under the key changes there, and
only in the top layer. All other variables hold what they held. -/
structure Inserted (target : Nat) (key : String) (value : Value) (before after : List Object) :
    Prop where
  others (index : Nat) (differs : index ≠ target) : after[index]? = before[index]?
  changed (object : Object) (held : before[target]? = some object) :
    ∃ grown : Object, after[target]? = some grown ∧ grown.delegate? = object.delegate? ∧
      ∀ other, grown.get? other = if other = key then some value else object.get? other

theorem inserted_perform (held : List Object) (target : Nat) (key : String) (value : Value) :
    Inserted target key value held (layering.perform held (.insert target key value)) where
  others index differs := by simp [Layering.perform, Ne.symm differs]
  changed object found := by
    refine ⟨object.insert key value, ?_, delegate?_insert object key value, fun other => ?_⟩
    · simp [Layering.perform, found, layering]
    · simp only [get?_insert, eq_comm]

/-- However objects are made, layered, copied and changed, each presents what has been inserted
into it and into the layers below. An insertion shows in one variable under one key. Objects are
equal if they show equal members under the same keys, whatever their layers are. -/
theorem layering_is_transparent (uses : List Object.Use) :
    List.Forall₂ Presents (layering.run [] uses) (Account.layering.run [] uses) ∧
      (∀ target key value, Inserted target key value (layering.run [] uses)
        (layering.run [] (uses ++ [.insert target key value]))) ∧
      ∀ left right : Object, (left == right) = true ↔
        left.keys = right.keys ∧ ∀ key first second, left.get? key = some first →
          right.get? key = some second → (first == second) = true := by
  refine ⟨?_, fun target key value => ?_, beq_iff_keys⟩
  · have kept := respects_keeps.run .nil uses
    exact kept.imp fun _ _ keeps => keeps.presents
  · have further : layering.run [] (uses ++ [.insert target key value]) =
        layering.perform (layering.run [] uses) (.insert target key value) := by
      simp [Layering.run]
    rw [further]
    exact inserted_perform _ target key value

/-- A layer over a duck is given another name. The duck and its copy keep theirs, and the layered
object is equal to one that was made with the new name. -/
theorem layering_is_transparent_of_renamed :
    let uses : List Object.Use := [.create, .insert 0 "name" (.string "duck"), .copy 0, .layer 0]
    let duck := Object.root [("name", .string "duck")]
    let goose := Object.root [("name", .string "goose")]
    let renamed := layering.run [] (uses ++ [.insert 2 "name" (.string "goose")])
    renamed[0]? = some duck ∧ renamed[1]? = some duck ∧
      ∃ grown, renamed[2]? = some grown ∧ grown.delegate? = some duck ∧
        grown.get? "name" = some (.string "goose") ∧ (grown == goose) = true := by
  intro uses duck goose renamed
  rcases layering_is_transparent uses with ⟨-, insertion, equality⟩
  have inserted := insertion 2 "name" (.string "goose")
  rcases inserted.changed (duck.layeredOver) rfl with ⟨grown, held, below, shown⟩
  refine ⟨inserted.others 0 (by decide), inserted.others 1 (by decide), grown, held, below, ?_, ?_⟩
  · simp [shown]
  · refine (equality grown goose).mpr ⟨?_, fun key first second found other => ?_⟩
    · cases held
      rfl
    · rw [shown] at found
      by_cases named : key = "name"
      · subst named
        cases found
        cases other
        rfl
      · simp [named, Ne.symm named, duck, get?, Members.find?] at found

end Object

end CallContracts
