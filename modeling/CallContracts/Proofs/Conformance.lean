import CallContracts.Proofs.Sessions
import CallContracts.Proofs.Settling

/-!
# Conformance

What a type asks of a value is said here by recursion on the type, apart from schemas and checks:
`TypeExpr.Conforms`. A check accepts exactly the values that conform. It passes them on with new
promises in the places of promise-typed parts and changes nothing else: it calls no function and
drives no promise. Whoever awaits one of the new promises, at whatever time, sees the promised type
checked against the resolution of the part, at the place where the part stood.
-/

namespace CallContracts

/-! ## Values that conform to a type -/

/-- Whether a value is of the kind that a keyword names. -/
def Primitive.Conforms : Primitive → Value → Prop
  | .number, value => ∃ number : Float, value = .number number ∧ number.isFinite
  | .string, value => ∃ text : String, value = .string text
  | .boolean, value => ∃ truth : Bool, value = .bool truth
  | .null, value => value = .null
  | .undefined, value => value = .undefined
  | .void, value => value = .undefined
  | .dontcare, _ => True

mutual

/-- Whether a value is what a type asks for. Nothing is asked yet of what is promised, and nothing
but being a function of a function. -/
def TypeExpr.Conforms : TypeExpr → Value → Prop
  | .primitive kind, value => kind.Conforms value
  | .array element, value => ∃ items, value = .array items ∧ ∀ item ∈ items, element.Conforms item
  | .tuple elements, value => ∃ items, value = .array items ∧ TypeExpr.AllConform elements items
  | .promise _, _ => True
  | .function _, value => ∃ callable, value = .function callable
termination_by structural type => type

/-- Whether there are as many items as types, and each item is what the type at its place asks
for. -/
def TypeExpr.AllConform : List TypeExpr → List Value → Prop
  | [], [] => True
  | type :: types, item :: items => type.Conforms item ∧ TypeExpr.AllConform types items
  | _, _ => False
termination_by structural types => types

end

/-- Induction over types, with the hypothesis for each element of a tuple. What function types are
made of plays no role. -/
@[elab_as_elim]
theorem TypeExpr.induction {motive : TypeExpr → Prop}
    (primitive : ∀ kind, motive (.primitive kind))
    (array : ∀ element, motive element → motive (.array element))
    (tuple : ∀ elements, (∀ element ∈ elements, motive element) → motive (.tuple elements))
    (promise : ∀ inner, motive inner → motive (.promise inner))
    (function : ∀ signature, motive (.function signature)) (type : TypeExpr) : motive type := by
  cases type with
  | primitive kind => exact primitive kind
  | array element =>
      exact array element (induction primitive array tuple promise function element)
  | tuple elements =>
      apply tuple elements
      intro element member
      exact induction primitive array tuple promise function element
  | promise inner => exact promise inner (induction primitive array tuple promise function inner)
  | function signature => exact function signature
termination_by sizeOf type

theorem TypeExpr.schemas_eq_map (types : List TypeExpr) :
    TypeExpr.schemas types = types.map TypeExpr.schema := by
  induction types with
  | nil => simp [TypeExpr.schemas]
  | cons type types ih => simp [TypeExpr.schemas, ih]

/-! ## A check accepts what conforms -/

/-- A check against the type finds nothing wrong exactly with what conforms. -/
def TypeExpr.ChecksConformance (type : TypeExpr) : Prop :=
  ∀ (value : Value) (path : IssuePath), type.schema.issues value path = [] ↔ type.Conforms value

theorem Primitive.checksConformance (kind : Primitive) :
    (TypeExpr.primitive kind).ChecksConformance := by
  intro value path
  cases kind with
  | number =>
      cases value with
      | number number =>
          simp [TypeExpr.schema, Primitive.schema, Schema.issues, TypeExpr.Conforms,
            Primitive.Conforms]
      | _ =>
          simp [TypeExpr.schema, Primitive.schema, Schema.issues, TypeExpr.Conforms,
            Primitive.Conforms]
  | _ =>
      cases value <;>
        simp [TypeExpr.schema, Primitive.schema, Schema.issues, TypeExpr.Conforms,
          Primitive.Conforms]

/-- Nothing is wrong with as many items as there are types exactly if each conforms to its type. -/
theorem elementIssues_eq_nil_iff {types : List TypeExpr}
    (each : ∀ type ∈ types, type.ChecksConformance) (path : IssuePath) (index : Nat)
    (items : List Value) :
    (types.length = items.length ∧
        Schema.elementIssues (types.map TypeExpr.schema) path index items = []) ↔
      TypeExpr.AllConform types items := by
  induction types generalizing index items with
  | nil => cases items <;> simp [Schema.elementIssues, TypeExpr.AllConform]
  | cons type types ih =>
      cases items with
      | nil => simp [TypeExpr.AllConform]
      | cons item items =>
          have first := each type List.mem_cons_self item (path.push index)
          have others := ih (fun other member => each other (List.mem_cons_of_mem _ member))
            (index + 1) items
          simp only [List.map_cons, List.length_cons, Nat.add_right_cancel_iff,
            Schema.elementIssues, List.append_eq_nil_iff, TypeExpr.AllConform, first, ← others]
          exact and_left_comm

theorem allConform_replicate_iff (element : TypeExpr) (items : List Value) :
    TypeExpr.AllConform (List.replicate items.length element) items ↔
      ∀ item ∈ items, element.Conforms item := by
  induction items with
  | nil => simp [TypeExpr.AllConform]
  | cons item items ih => simp [List.replicate_succ, TypeExpr.AllConform, ih]

theorem TypeExpr.checksConformance (type : TypeExpr) : type.ChecksConformance := by
  induction type using TypeExpr.induction with
  | primitive kind => exact kind.checksConformance
  | array element ih =>
      intro value path
      cases value with
      | array items =>
          have each : ∀ type ∈ List.replicate items.length element, type.ChecksConformance :=
            List.forall_mem_replicate.mpr (Or.inr ih)
          have conforms := elementIssues_eq_nil_iff each path 0 items
          rw [allConform_replicate_iff, List.map_replicate] at conforms
          simpa [TypeExpr.schema, Schema.issues, Schema.itemIssues_eq_elementIssues,
            TypeExpr.Conforms] using conforms
      | _ => simp [TypeExpr.schema, Schema.issues, TypeExpr.Conforms]
  | tuple elements ih =>
      intro value path
      cases value with
      | array items =>
          have conforms := elementIssues_eq_nil_iff ih path 0 items
          simp only [TypeExpr.schema, Schema.issues, TypeExpr.schemas_eq_map, List.length_map,
            TypeExpr.Conforms, Value.array.injEq]
          split <;> simp_all
      | _ => simp [TypeExpr.schema, Schema.issues, TypeExpr.Conforms]
  | promise inner _ =>
      intro value path
      simp [TypeExpr.schema, Schema.issues, TypeExpr.Conforms]
  | function signature =>
      intro value path
      cases value <;> simp [TypeExpr.schema, Schema.issues, TypeExpr.Conforms]

/-! ## A check passes on what it accepts -/

/-- A part of a value in whose place a new promise was put: the promise, what is promised of the
part, the part itself, and where it stands. -/
structure PromisedPart where
  promise : PromiseId
  inner : TypeExpr
  value : Value
  path : IssuePath

mutual

/-- The result is the value with the promises of these parts in the places of its promise-typed
parts, in order, and is otherwise the same. -/
inductive TypeExpr.Replaces :
    TypeExpr → IssuePath → (value result : Value) → List PromisedPart → Prop where
  | primitive (kind : Primitive) (path : IssuePath) (value : Value) :
      TypeExpr.Replaces (.primitive kind) path value value []
  | array {element : TypeExpr} {path : IssuePath} {items results : List Value}
      {parts : List PromisedPart}
      (each : TypeExpr.AllReplace (List.replicate items.length element) path 0 items results
        parts) :
      TypeExpr.Replaces (.array element) path (.array items) (.array results) parts
  | tuple {elements : List TypeExpr} {path : IssuePath} {items results : List Value}
      {parts : List PromisedPart} (each : TypeExpr.AllReplace elements path 0 items results parts) :
      TypeExpr.Replaces (.tuple elements) path (.array items) (.array results) parts
  | promise (promise : PromiseId) (inner : TypeExpr) (path : IssuePath) (value : Value) :
      TypeExpr.Replaces (.promise inner) path value (.promise promise)
        [⟨promise, inner, value, path⟩]
  | function (signature : Signature) (path : IssuePath) (value : Value) :
      TypeExpr.Replaces (.function signature) path value value []

/-- The results are the items, of which each has a type of its own, with promises in the places of
these parts. -/
inductive TypeExpr.AllReplace :
    List TypeExpr → IssuePath → (index : Nat) → (items results : List Value) →
      List PromisedPart → Prop where
  | nil (path : IssuePath) (index : Nat) : TypeExpr.AllReplace [] path index [] [] []
  | cons {type : TypeExpr} {types : List TypeExpr} {path : IssuePath} {index : Nat}
      {item result : Value} {items results : List Value} {parts others : List PromisedPart}
      (first : TypeExpr.Replaces type (path.push index) item result parts)
      (behind : TypeExpr.AllReplace types path (index + 1) items results others) :
      TypeExpr.AllReplace (type :: types) path index (item :: items) (result :: results)
        (parts ++ others)

end

theorem TypeExpr.AllReplace.length_eq {types : List TypeExpr} {path : IssuePath} {index : Nat}
    {items results : List Value} {parts : List PromisedPart}
    (replace : TypeExpr.AllReplace types path index items results parts) :
    results.length = items.length := by
  induction types generalizing index items results parts with
  | nil =>
      cases replace
      rfl
  | cons type types ih =>
      cases replace with
      | cons first behind => simp [ih behind]

namespace PromisedPart

/-- What the promise of the part does. -/
def work (part : PromisedPart) : Program :=
  part.inner.schema.work part.value part.path

/-- The promises of the parts are those with the indices from `next` on. -/
def NumberedFrom (next : Nat) (parts : List PromisedPart) : Prop :=
  parts.map PromisedPart.promise = (List.range' next parts.length).map PromiseId.mk

theorem NumberedFrom.append {next : Nat} {parts others : List PromisedPart}
    (first : NumberedFrom next parts) (behind : NumberedFrom (next + parts.length) others) :
    NumberedFrom next (parts ++ others) := by
  unfold NumberedFrom at first behind ⊢
  rw [List.map_append, first, behind, List.length_append, ← List.range'_append_1, List.map_append]

end PromisedPart

/-- What conforms to the type is passed on with new promises in the places of its promise-typed
parts. -/
def TypeExpr.DeliversReplaced (type : TypeExpr) : Prop :=
  ∀ {value : Value} (path : IssuePath) (next : Nat), type.Conforms value →
    ∃ parts, type.Replaces path value (type.schema.delivery value path next).1 parts ∧
      (type.schema.delivery value path next).2 = parts.map PromisedPart.work ∧
      PromisedPart.NumberedFrom next parts

theorem allReplace_deliveryElements {types : List TypeExpr}
    (each : ∀ type ∈ types, type.DeliversReplaced) (path : IssuePath) (index next : Nat)
    {items : List Value} (conform : TypeExpr.AllConform types items) :
    ∃ parts,
      TypeExpr.AllReplace types path index items
        (Schema.deliveryElements (types.map TypeExpr.schema) path index items next).1 parts ∧
      (Schema.deliveryElements (types.map TypeExpr.schema) path index items next).2 =
        parts.map PromisedPart.work ∧
      PromisedPart.NumberedFrom next parts := by
  induction types generalizing index items next with
  | nil =>
      cases items with
      | nil =>
          refine ⟨[], ?_, ?_, rfl⟩
          · exact .nil path index
          · simp [Schema.deliveryElements]
      | cons item items => exact absurd conform (by simp [TypeExpr.AllConform])
  | cons type types ih =>
      cases items with
      | nil => exact absurd conform (by simp [TypeExpr.AllConform])
      | cons item items =>
          simp only [TypeExpr.AllConform] at conform
          rcases each type List.mem_cons_self (path.push index) next conform.1 with
            ⟨parts, replaces, works, numbered⟩
          have othersDeliver : ∀ other ∈ types, other.DeliversReplaced :=
            fun other member => each other (List.mem_cons_of_mem _ member)
          rcases ih othersDeliver (index + 1) (next + parts.length) conform.2 with
            ⟨others, allReplace, otherWorks, othersNumbered⟩
          refine ⟨parts ++ others, ?_, ?_, numbered.append othersNumbered⟩
          · simp only [List.map_cons, Schema.deliveryElements, works, List.length_map]
            exact .cons replaces allReplace
          · simp only [List.map_cons, Schema.deliveryElements, works, List.length_map, otherWorks,
              List.map_append]

theorem TypeExpr.deliversReplaced (type : TypeExpr) : type.DeliversReplaced := by
  induction type using TypeExpr.induction with
  | primitive kind =>
      intro value path next conforms
      refine ⟨[], ?_, ?_, rfl⟩
      · cases kind <;> exact .primitive _ path value
      · cases kind <;> simp [TypeExpr.schema, Primitive.schema, Schema.delivery]
  | array element ih =>
      intro value path next conforms
      simp only [TypeExpr.Conforms] at conforms
      rcases conforms with ⟨items, rfl, each⟩
      have elements : ∀ type ∈ List.replicate items.length element, type.DeliversReplaced :=
        List.forall_mem_replicate.mpr (Or.inr ih)
      have conform := (allConform_replicate_iff element items).mpr each
      rcases allReplace_deliveryElements elements path 0 next conform with
        ⟨parts, replace, works, numbered⟩
      rw [List.map_replicate] at replace works
      refine ⟨parts, ?_, ?_, numbered⟩
      · simp only [TypeExpr.schema, Schema.delivery, Schema.deliveryItems_eq_deliveryElements]
        exact .array replace
      · simp only [TypeExpr.schema, Schema.delivery, Schema.deliveryItems_eq_deliveryElements]
        exact works
  | tuple elements ih =>
      intro value path next conforms
      simp only [TypeExpr.Conforms] at conforms
      rcases conforms with ⟨items, rfl, each⟩
      rcases allReplace_deliveryElements ih path 0 next each with
        ⟨parts, replace, works, numbered⟩
      refine ⟨parts, ?_, ?_, numbered⟩
      · simp only [TypeExpr.schema, Schema.delivery, TypeExpr.schemas_eq_map]
        exact .tuple replace
      · simp only [TypeExpr.schema, Schema.delivery, TypeExpr.schemas_eq_map]
        exact works
  | promise inner _ =>
      intro value path next _
      refine ⟨[⟨⟨next⟩, inner, value, path⟩], ?_, ?_, ?_⟩
      · simp only [TypeExpr.schema, Schema.delivery]
        exact .promise ⟨next⟩ inner path value
      · simp [TypeExpr.schema, Schema.delivery, PromisedPart.work]
      · simp [PromisedPart.NumberedFrom]
  | function signature =>
      intro value path next _
      refine ⟨[], ?_, ?_, rfl⟩
      · simp only [TypeExpr.schema, Schema.delivery]
        exact .function signature path value
      · simp [TypeExpr.schema, Schema.delivery]

mutual

/-- Whether the type contains no promise type, apart from the signatures of function types. -/
def TypeExpr.promisesNothing : TypeExpr → Bool
  | .primitive _ => true
  | .array element => element.promisesNothing
  | .tuple elements => TypeExpr.promiseNothing elements
  | .promise _ => false
  | .function _ => true
termination_by structural type => type

/-- Whether none of the types contains a promise type. -/
def TypeExpr.promiseNothing : List TypeExpr → Bool
  | [] => true
  | type :: types => type.promisesNothing && TypeExpr.promiseNothing types
termination_by structural types => types

end

theorem promiseNothing_replicate {element : TypeExpr} (nothing : element.promisesNothing)
    (count : Nat) : TypeExpr.promiseNothing (List.replicate count element) := by
  induction count with
  | zero => simp [TypeExpr.promiseNothing]
  | succ count ih => simp [List.replicate_succ, TypeExpr.promiseNothing, nothing, ih]

/-- If nothing is promised, nothing is replaced. -/
def TypeExpr.LeavesUnpromised (type : TypeExpr) : Prop :=
  ∀ {path : IssuePath} {value result : Value} {parts : List PromisedPart},
    type.promisesNothing → type.Replaces path value result parts → result = value ∧ parts = []

theorem allReplace_eq_of_promiseNothing {types : List TypeExpr}
    (each : ∀ type ∈ types, type.LeavesUnpromised) {path : IssuePath} {index : Nat}
    {items results : List Value} {parts : List PromisedPart}
    (nothing : TypeExpr.promiseNothing types)
    (replace : TypeExpr.AllReplace types path index items results parts) :
    results = items ∧ parts = [] := by
  induction types generalizing index items results parts with
  | nil =>
      cases replace
      exact ⟨rfl, rfl⟩
  | cons type types ih =>
      simp only [TypeExpr.promiseNothing, Bool.and_eq_true] at nothing
      cases replace with
      | cons first behind =>
          rcases each type List.mem_cons_self nothing.1 first with ⟨rfl, rfl⟩
          rcases ih (fun other member => each other (List.mem_cons_of_mem _ member)) nothing.2
            behind with ⟨rfl, rfl⟩
          exact ⟨rfl, rfl⟩

theorem TypeExpr.leavesUnpromised (type : TypeExpr) : type.LeavesUnpromised := by
  induction type using TypeExpr.induction with
  | primitive kind =>
      intro path value result parts _ replaces
      cases replaces
      exact ⟨rfl, rfl⟩
  | array element ih =>
      intro path value result parts nothing replaces
      simp only [TypeExpr.promisesNothing] at nothing
      cases replaces with
      | @array _ _ items _ _ replace =>
          have each : ∀ type ∈ List.replicate items.length element, type.LeavesUnpromised :=
            List.forall_mem_replicate.mpr (Or.inr ih)
          rcases allReplace_eq_of_promiseNothing each (promiseNothing_replicate nothing _)
            replace with ⟨rfl, rfl⟩
          exact ⟨rfl, rfl⟩
  | tuple elements ih =>
      intro path value result parts nothing replaces
      simp only [TypeExpr.promisesNothing] at nothing
      cases replaces with
      | tuple replace =>
          rcases allReplace_eq_of_promiseNothing ih nothing replace with ⟨rfl, rfl⟩
          exact ⟨rfl, rfl⟩
  | promise inner _ =>
      intro path value result parts nothing _
      simp [TypeExpr.promisesNothing] at nothing
  | function signature =>
      intro path value result parts _ replaces
      cases replaces
      exact ⟨rfl, rfl⟩

/-! ## The new promises settle as the promised type is checked -/

namespace Store

/-- The resolution of a value: what the promise comes to, if it is one, and the value itself
otherwise. -/
def resolution (depth : Nat) (value : Value) (store : Store) : Option (Settlement × Store) :=
  match value with
  | .promise promise => store.await depth promise
  | value => some (.ok value, store)

theorem run_resolve (depth : Nat) (value : Value) (resume : Value → Program) (store : Store) :
    run depth (Program.resolve value resume) store =
      match store.resolution depth value with
      | none => none
      | some (.error fault, reached) => some (.error fault, reached)
      | some (.ok resolution, reached) => run depth (resume resolution) reached := by
  cases depth with
  | zero => cases value <;> rfl
  | succ depth =>
      cases value with
      | promise promise =>
          simp only [Program.resolve, resolution, await, run, Program.perform]
          cases store.deferred promise with
          | settled settlement => cases settlement <;> rfl
          | pending work =>
              simp only
              cases run depth work (store.record (.started promise)) with
              | none => rfl
              | some reached => rcases reached with ⟨_ | _, reached⟩ <;> rfl
      | _ => rfl

end Store

namespace PromisedPart

/-- What the promise of the part comes to: the rejection of the part, if it is a promise that
rejects, and otherwise what the check of its resolution comes to at the place of the part. -/
def settle (part : PromisedPart) (depth : Nat) (store : Store) : Option (Settlement × Store) :=
  match store.resolution depth part.value with
  | none => none
  | some (.error fault, reached) => some (.error fault, reached)
  | some (.ok resolution, reached) =>
    reached.run depth (part.inner.schema.check resolution part.path)

theorem run_work (part : PromisedPart) (depth : Nat) (store : Store) :
    store.run depth part.work = part.settle depth store :=
  Store.run_resolve depth part.value _ store

/-- At whatever time somebody awaits the promise of the part for the first time, it comes to what
the part comes to then, which is noted for all who await it later. -/
def SettlesInTurn (part : PromisedPart) (store : Store) : Prop :=
  ∀ reached, Store.Session (fun _ => True) store reached →
    (∀ depth, reached.settlement? part.promise = none →
      reached.await (depth + 1) part.promise =
        (part.settle depth (reached.record (.started part.promise))).map
          fun (settlement, later) => (settlement, later.settlePromise part.promise settlement)) ∧
    ∀ settlement, reached.settlement? part.promise = some settlement →
      ∃ depth before behind, part.settle depth before = some (settlement, behind)

theorem settlesInTurn_of_madeFor {part : PromisedPart} {store : Store}
    (made : Store.MadeFor part.promise part.work store) : part.SettlesInTurn store := by
  intro reached session
  have madeReached := (Store.madeFor_invariant part.promise part.work).session session made
  refine ⟨?_, ?_⟩
  · intro depth unsettled
    rw [Store.await_of_pending (madeReached.pending unsettled), run_work]
  · intro settlement noted
    rw [Store.settlement?_eq_some_iff] at noted
    rcases madeReached.state with pending | ⟨depth, before, behind, other, worked, settled⟩
    · simp [noted] at pending
    · rw [noted, Deferred.settled.injEq] at settled
      subst settled
      rw [run_work] at worked
      exact ⟨depth, before, behind, worked⟩

/-- Promises that were just made for the works of parts are new and wait to do these works. -/
theorem deferred_deferAll_of_mem {store : Store} {parts : List PromisedPart}
    (numbered : NumberedFrom store.promises.size parts) {part : PromisedPart}
    (member : part ∈ parts) :
    store.promises.size ≤ part.promise.index ∧
      (store.deferAll (parts.map PromisedPart.work)).deferred part.promise =
        .pending part.work := by
  rcases List.mem_iff_getElem?.mp member with ⟨index, found⟩
  have isWork : (parts.map PromisedPart.work)[index]? = some part.work := by simp [found]
  have isPromise : part.promise = ⟨store.promises.size + index⟩ := by
    have listed := congrArg (·[index]?) numbered
    have inRange : index < parts.length := (List.getElem?_eq_some_iff.mp found).1
    simp only [List.getElem?_map, found, Option.map_some, List.getElem?_range' inRange,
      Nat.one_mul, Option.some.injEq] at listed
    exact listed
  have waits := Store.awaits_deferAll store _ index part.work isWork
  refine ⟨?_, ?_⟩
  · rw [isPromise]
    exact Nat.le_add_right _ _
  · simp [Store.deferred, isPromise, waits]

theorem madeFor_deferAll {store : Store} {parts : List PromisedPart}
    (numbered : NumberedFrom store.promises.size parts) {part : PromisedPart}
    (member : part ∈ parts) :
    Store.MadeFor part.promise part.work (store.deferAll (parts.map PromisedPart.work)) :=
  Store.madeFor_of_pending (deferred_deferAll_of_mem numbered member).2

end PromisedPart

/-! ## What a check comes to -/

/-- The result is the value with new promises in the places of its promise-typed parts, which settle
in their turn. They are all that the store has more than before. -/
def TypeExpr.PassesOn (type : TypeExpr) (value : Value) (path : IssuePath) (store : Store)
    (result : Value) (later : Store) : Prop :=
  ∃ parts, type.Replaces path value result parts ∧
    PromisedPart.NumberedFrom store.promises.size parts ∧
    later = store.deferAll (parts.map PromisedPart.work) ∧
    ∀ part ∈ parts, part.SettlesInTurn later

theorem TypeExpr.run_check_of_conforms {type : TypeExpr} {value : Value}
    (conforms : type.Conforms value) (path : IssuePath) (store : Store) (depth : Nat) :
    ∃ result later,
      store.run (depth + 1) (type.schema.check value path) = some (.ok result, later) ∧
      type.PassesOn value path store result later := by
  rcases type.deliversReplaced path store.promises.size conforms with
    ⟨parts, replaces, works, numbered⟩
  refine ⟨_, _, ?_, parts, replaces, numbered, rfl, ?_⟩
  · rw [Store.run, Program.perform_check, (type.checksConformance value path).mpr conforms, works]
  · intro part member
    exact PromisedPart.settlesInTurn_of_madeFor (PromisedPart.madeFor_deferAll numbered member)

theorem TypeExpr.run_check_of_not_conforms {type : TypeExpr} {value : Value}
    (differs : ¬type.Conforms value) (path : IssuePath) (store : Store) (depth : Nat) :
    ∃ failure, store.run (depth + 1) (type.schema.check value path) =
      some (.error (.invalid failure), store) := by
  rw [Store.run, Program.perform_check]
  cases wrong : type.schema.issues value path with
  | nil => exact absurd ((type.checksConformance value path).mp wrong) differs
  | cons first others => exact ⟨_, rfl⟩

/-- A check accepts exactly the values that conform to the type, and rejects all others. It passes
an accepted value on with new promises in the places of its promise-typed parts, and just as it is
if nothing is promised. It calls no function and drives no promise, and old promises stay as they
are. -/
theorem check_accepts_exactly_what_conforms (type : TypeExpr) (value : Value) (path : IssuePath)
    (store : Store) (depth : Nat) :
    ((∃ result later, store.run (depth + 1) (type.schema.check value path) =
      some (.ok result, later)) ↔ type.Conforms value) ∧
    (¬type.Conforms value → ∃ failure, store.run (depth + 1) (type.schema.check value path) =
      some (.error (.invalid failure), store)) ∧
    (∀ result later, store.run (depth + 1) (type.schema.check value path) =
      some (.ok result, later) →
      type.PassesOn value path store result later ∧
      (type.promisesNothing → result = value ∧ later = store)) ∧
    ∀ settlement later, store.run (depth + 1) (type.schema.check value path) =
      some (settlement, later) →
      later.trace = store.trace ∧
      ∀ promise : PromiseId, promise.index < store.promises.size →
        later.deferred promise = store.deferred promise := by
  by_cases conforms : type.Conforms value
  · rcases type.run_check_of_conforms conforms path store depth with
      ⟨result, later, ends, passesOn⟩
    rcases passesOn with ⟨parts, replaces, numbered, rfl, settle⟩
    refine ⟨⟨fun _ => conforms, fun _ => ⟨_, _, ends⟩⟩, fun differs => absurd conforms differs,
      ?_, ?_⟩
    · intro _ _ same
      simp only [ends, Option.some.injEq, Prod.mk.injEq, Except.ok.injEq] at same
      rcases same with ⟨rfl, rfl⟩
      refine ⟨⟨parts, replaces, numbered, rfl, settle⟩, ?_⟩
      intro nothing
      rcases type.leavesUnpromised nothing replaces with ⟨rfl, rfl⟩
      exact ⟨rfl, Store.deferAll_nil store⟩
    · intro _ _ same
      simp only [ends, Option.some.injEq, Prod.mk.injEq] at same
      rcases same with ⟨rfl, rfl⟩
      refine ⟨rfl, ?_⟩
      intro promise old
      simp [Store.deferred, Store.deferAll, Array.getElem?_append_left old]
  · rcases type.run_check_of_not_conforms conforms path store depth with ⟨failure, ends⟩
    refine ⟨⟨?_, fun isSo => absurd isSo conforms⟩, fun _ => ⟨failure, ends⟩, ?_, ?_⟩
    · rintro ⟨_, _, accepted⟩
      simp [ends] at accepted
    · intro _ _ accepted
      simp [ends] at accepted
    · intro _ _ same
      simp only [ends, Option.some.injEq, Prod.mk.injEq] at same
      rcases same with ⟨rfl, rfl⟩
      exact ⟨rfl, fun _ _ => rfl⟩

/-- The pair of a text and a text against `[Promise<number>, string]`: the first text is put off,
the second one is accepted as it is. -/
theorem check_accepts_exactly_what_conforms_of_pair :
    Store.empty.run 1
      ((TypeExpr.tuple [.promise (.primitive .number), .primitive .string]).schema.check
        (.array [.string "x", .string "y"]) .result) =
      some (.ok (.array [.promise ⟨0⟩, .string "y"]),
        Store.empty.deferAll [Schema.number.work (.string "x") ⟨.result, [0]⟩]) ∧
    (TypeExpr.tuple [.promise (.primitive .number), .primitive .string]).PassesOn
      (.array [.string "x", .string "y"]) .result Store.empty (.array [.promise ⟨0⟩, .string "y"])
      (Store.empty.deferAll [Schema.number.work (.string "x") ⟨.result, [0]⟩]) := by
  have ends : Store.empty.run 1
      ((TypeExpr.tuple [.promise (.primitive .number), .primitive .string]).schema.check
        (.array [.string "x", .string "y"]) .result) =
      some (.ok (.array [.promise ⟨0⟩, .string "y"]),
        Store.empty.deferAll [Schema.number.work (.string "x") ⟨.result, [0]⟩]) := by
    rw [Store.run, Program.perform_check]
    simp [TypeExpr.schema, TypeExpr.schemas, Primitive.schema, Schema.issues, Schema.elementIssues,
      Schema.delivery, Schema.deliveryElements, Store.empty, IssuePath.push, IssuePath.result]
  exact ⟨ends, ((check_accepts_exactly_what_conforms _ _ _ _ 0).2.2.1 _ _ ends).1⟩

end CallContracts
