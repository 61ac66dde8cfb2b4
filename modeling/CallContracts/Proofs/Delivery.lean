import CallContracts.Schema.Parameters
import CallContracts.Store.Run

/-!
# What a delivery comes to

`Schema.deliver` is written with a continuation, so that it can make promises on its way through a
value. `Schema.delivery` says in one step what it comes to: the value with identities in the places
of its promise-typed parts, and the works of the promises behind these identities, in the order in
which they are made. `Program.perform_deliver` proves the two equal on every store.

An array of one element type is treated as a tuple of as many equal types, and the arguments of a
call as a tuple of what is asked of each of them; so each fact about lists of values is proved once.
-/

namespace CallContracts

namespace Schema

/-- Induction over schemas, with the hypothesis for each element of a tuple. -/
@[elab_as_elim, induction_eliminator]
theorem induction {motive : Schema → Prop} (number : motive .number) (string : motive .string)
    (boolean : motive .boolean) (null : motive .null) (undefined : motive .undefined)
    (void : motive .void) (any : motive .any) (callable : motive .callable)
    (array : ∀ element, motive element → motive (.array element))
    (tuple : ∀ elements, (∀ element ∈ elements, motive element) → motive (.tuple elements))
    (promise : ∀ inner, motive inner → motive (.promise inner)) : ∀ schema, motive schema
  | .number => number
  | .string => string
  | .boolean => boolean
  | .null => null
  | .undefined => undefined
  | .void => void
  | .any => any
  | .callable => callable
  | .array element =>
    array element (induction number string boolean null undefined void any callable array tuple
      promise element)
  | .tuple elements =>
    tuple elements fun element _ =>
      induction number string boolean null undefined void any callable array tuple promise element
  | .promise inner =>
    promise inner (induction number string boolean null undefined void any callable array tuple
      promise inner)

/-! ## Arrays as tuples -/

/-- The issues of an array are those of a tuple of equal element types. -/
theorem itemIssues_eq_elementIssues (element : Schema) (path : IssuePath) (index : Nat)
    (items : List Value) :
    itemIssues element.issues path index items =
      elementIssues (List.replicate items.length element) path index items := by
  induction items generalizing index with
  | nil => simp [itemIssues, elementIssues]
  | cons item items ih => simp [itemIssues, elementIssues, List.replicate_succ, ih]

/-- An array is passed on like a tuple of equal element types. -/
theorem deliverItems_eq_deliverElements (element : Schema) (path : IssuePath) (index : Nat)
    (items : List Value) (resume : List Value → Program) :
    deliverItems element.deliver path index items resume =
      deliverElements (List.replicate items.length element) path index items resume := by
  induction items generalizing index resume with
  | nil => simp [deliverItems, deliverElements]
  | cons item items ih => simp [deliverItems, deliverElements, List.replicate_succ, ih]

end Schema

/-! ## Deliveries in one step -/

namespace Schema

/-- What the promise for `value` does: it goes on with the resolution and checks it in its turn. -/
def work (inner : Schema) (value : Value) (path : IssuePath) : Program :=
  Program.resolve value fun resolution => inner.check resolution path

/-- The items at their indices counted from `index`, passed on one after another. -/
def deliveryItems (delivery : Value → IssuePath → Nat → Value × List Program) (path : IssuePath) :
    (index : Nat) → List Value → (next : Nat) → List Value × List Program
  | _, [], _ => ([], [])
  | index, item :: items, next =>
    let (item, works) := delivery item (path.push index) next
    let (items, others) := deliveryItems delivery path (index + 1) items (next + works.length)
    (item :: items, works ++ others)

mutual

/-- An accepted value as it is passed on, and the works of the new promises, of which the first gets
the index `next`. -/
def delivery : Schema → Value → IssuePath → (next : Nat) → Value × List Program
  | .array element, .array items, path, next =>
    let (items, works) := deliveryItems element.delivery path 0 items next
    (.array items, works)
  | .tuple elements, .array items, path, next =>
    let (items, works) := deliveryElements elements path 0 items next
    (.array items, works)
  | .promise inner, value, path, next => (.promise ⟨next⟩, [inner.work value path])
  | _, value, _, _ => (value, [])
termination_by structural schema => schema

/-- Items of which each has a schema of its own, passed on one after another. -/
def deliveryElements : List Schema → IssuePath → (index : Nat) → List Value → (next : Nat) →
    List Value × List Program
  | schema :: schemas, path, index, item :: items, next =>
    let (item, works) := schema.delivery item (path.push index) next
    let (items, others) := deliveryElements schemas path (index + 1) items (next + works.length)
    (item :: items, works ++ others)
  | _, _, _, items, _ => (items, [])
termination_by structural schemas => schemas

end

theorem deliveryItems_eq_deliveryElements (element : Schema) (path : IssuePath) (index : Nat)
    (items : List Value) (next : Nat) :
    deliveryItems element.delivery path index items next =
      deliveryElements (List.replicate items.length element) path index items next := by
  induction items generalizing index next with
  | nil => simp [deliveryItems, deliveryElements]
  | cons item items ih => simp [deliveryItems, deliveryElements, List.replicate_succ, ih]

end Schema

namespace Store

/-- The store with new promises of these works. -/
def deferAll (store : Store) (works : List Program) : Store :=
  { store with promises := store.promises ++ works.toArray.map Deferred.pending }

@[simp]
theorem deferAll_nil (store : Store) : store.deferAll [] = store := by
  simp [deferAll]

theorem deferAll_append (store : Store) (works others : List Program) :
    store.deferAll (works ++ others) = (store.deferAll works).deferAll others := by
  simp [deferAll]

@[simp]
theorem size_deferAll (store : Store) (works : List Program) :
    (store.deferAll works).promises.size = store.promises.size + works.length := by
  simp [deferAll]

theorem newPromise_eq_deferAll (store : Store) (work : Program) :
    store.newPromise work = (⟨store.promises.size⟩, store.deferAll [work]) := by
  simp [newPromise, deferAll]

end Store

namespace Program

variable {enter : Program → Store → Option (Settlement × Store)}

/-- What it means that a schema passes values on in one step. -/
def DeliversAtOnce (enter : Program → Store → Option (Settlement × Store)) (schema : Schema) :
    Prop :=
  ∀ (value : Value) (path : IssuePath) (resume : Value → Program) (store : Store),
    (schema.deliver value path resume).perform enter store =
      (resume (schema.delivery value path store.promises.size).1).perform enter
        (store.deferAll (schema.delivery value path store.promises.size).2)

theorem perform_deliverElements_of {schemas : List Schema}
    (each : ∀ schema ∈ schemas, DeliversAtOnce enter schema) (path : IssuePath) (index : Nat)
    (items : List Value) (resume : List Value → Program) (store : Store) :
    (Schema.deliverElements schemas path index items resume).perform enter store =
      (resume (Schema.deliveryElements schemas path index items store.promises.size).1).perform
        enter (store.deferAll
          (Schema.deliveryElements schemas path index items store.promises.size).2) := by
  induction schemas generalizing index items resume store with
  | nil => simp [Schema.deliverElements, Schema.deliveryElements]
  | cons schema schemas ih =>
      cases items with
      | nil => simp [Schema.deliverElements, Schema.deliveryElements]
      | cons item items =>
          have others : ∀ other ∈ schemas, DeliversAtOnce enter other :=
            fun other member => each other (List.mem_cons_of_mem _ member)
          have first := each schema List.mem_cons_self
          simp only [Schema.deliverElements, Schema.deliveryElements]
          rw [first, ih others]
          simp only [Store.size_deferAll, Store.deferAll_append]

/-- Passing a value on is one step: the new promises are made in order, and the program goes on with
their identities in place. -/
theorem perform_deliver (schema : Schema) : DeliversAtOnce enter schema := by
  induction schema with
  | array element ih =>
      intro value path resume store
      cases value with
      | array items =>
          simp only [Schema.deliver, Schema.delivery,
            Schema.deliverItems_eq_deliverElements, Schema.deliveryItems_eq_deliveryElements]
          apply perform_deliverElements_of
          intro schema member
          rw [List.eq_of_mem_replicate member]
          exact ih
      | _ => simp [Schema.deliver, Schema.delivery]
  | tuple elements ih =>
      intro value path resume store
      cases value with
      | array items =>
          simp only [Schema.deliver, Schema.delivery]
          exact perform_deliverElements_of ih path 0 items _ store
      | _ => simp [Schema.deliver, Schema.delivery]
  | promise inner _ =>
      intro value path resume store
      simp only [Schema.deliver, Schema.delivery, perform, Store.newPromise_eq_deferAll]
      rfl
  | _ =>
      intro value path resume store
      simp [Schema.deliver, Schema.delivery]

theorem perform_deliverElements (schemas : List Schema) (path : IssuePath) (index : Nat)
    (items : List Value) (resume : List Value → Program) (store : Store) :
    (Schema.deliverElements schemas path index items resume).perform enter store =
      (resume (Schema.deliveryElements schemas path index items store.promises.size).1).perform
        enter (store.deferAll
          (Schema.deliveryElements schemas path index items store.promises.size).2) :=
  perform_deliverElements_of (fun schema _ => perform_deliver schema) path index items resume store

/-- A check is one step: it ends with the value as it is passed on, or with its issues. -/
theorem perform_check (schema : Schema) (value : Value) (path : IssuePath) (store : Store) :
    (schema.check value path).perform enter store =
      match schema.issues value path with
      | [] =>
        some (.ok (schema.delivery value path store.promises.size).1,
          store.deferAll (schema.delivery value path store.promises.size).2)
      | first :: others => some (.error (.invalid ⟨path.phase, first, others⟩), store) := by
  unfold Schema.check
  cases schema.issues value path with
  | nil =>
      simp only [perform_deliver schema value path]
      rfl
  | cons first others => rfl

end Program

/-! ## Arguments as a tuple -/

/-- What is asked of an argument in the place of a slot. -/
def Slot.demand (slot : Slot) (argument : Value) : Schema :=
  match slot.optional, argument with
  | true, .undefined => .undefined
  | _, _ => slot.schema

namespace ParameterSchema

/-- What is asked of each argument that has a slot. -/
def demands (slots : List Slot) (arguments : List Value) : List Schema :=
  List.zipWith Slot.demand slots arguments

/-- The issues of arguments are those of a tuple, and behind them those of the missing arguments. -/
theorem slotIssues_eq_elementIssues (slots : List Slot) (position : Nat) (arguments : List Value) :
    slotIssues slots position arguments =
      Schema.elementIssues (demands slots arguments) .arguments position arguments ++
        slotIssues (slots.drop arguments.length) (position + arguments.length) [] := by
  induction slots generalizing position arguments with
  | nil => simp [slotIssues, demands, Schema.elementIssues]
  | cons slot slots ih =>
      cases arguments with
      | nil => simp [demands, Schema.elementIssues]
      | cons argument arguments =>
          rcases slot with ⟨schema, optional⟩
          have behind : position + 1 + arguments.length = position + (arguments.length + 1) := by
            omega
          simp only [demands] at ih
          cases optional with
          | false =>
              simp [slotIssues, demands, Slot.demand, Schema.elementIssues, ih, behind]
          | true =>
              cases argument <;>
                simp [slotIssues, demands, Slot.demand, Schema.elementIssues, Schema.issues, ih,
                  behind]

/-- Arguments are passed on like the elements of a tuple. -/
theorem deliverSlots_eq_deliverElements (slots : List Slot) (position : Nat)
    (arguments : List Value) (resume : List Value → Program) :
    deliverSlots slots position arguments resume =
      Schema.deliverElements (demands slots arguments) .arguments position arguments resume := by
  induction slots generalizing position arguments resume with
  | nil => simp [deliverSlots, demands, Schema.deliverElements]
  | cons slot slots ih =>
      cases arguments with
      | nil => simp [deliverSlots, demands, Schema.deliverElements]
      | cons argument arguments =>
          rcases slot with ⟨schema, optional⟩
          simp only [demands] at ih
          cases optional with
          | false => simp [deliverSlots, demands, Slot.demand, Schema.deliverElements, ih]
          | true =>
              cases argument <;>
                simp [deliverSlots, demands, Slot.demand, Schema.deliverElements,
                  Schema.deliver, ih]

/-- The arguments as they are passed on, and the works of the new promises. -/
def delivery (schema : ParameterSchema) (arguments : List Value) (next : Nat) :
    List Value × List Program :=
  Schema.deliveryElements (demands schema.slots arguments) .arguments 0 arguments next

/-- A check of arguments goes on with them at once, or with the failure. -/
theorem perform_checkThen {enter : Program → Store → Option (Settlement × Store)}
    (schema : ParameterSchema) (arguments : List Value) (accepted : List Value → Program)
    (rejected : ValidationFailure → Program) (store : Store) :
    (schema.checkThen arguments accepted rejected).perform enter store =
      match schema.issues arguments with
      | [] =>
        (accepted (schema.delivery arguments store.promises.size).1).perform enter
          (store.deferAll (schema.delivery arguments store.promises.size).2)
      | first :: others => (rejected ⟨.arguments, first, others⟩).perform enter store := by
  unfold checkThen
  cases schema.issues arguments with
  | nil =>
      simp only [deliverSlots_eq_deliverElements, Program.perform_deliverElements]
      rfl
  | cons first others => rfl

/-- One level of a run is enough for a check of arguments. -/
theorem run_check (schema : ParameterSchema) (arguments : List Value) (depth : Nat)
    (store : Store) :
    store.run (depth + 1) (schema.check arguments) =
      match schema.issues arguments with
      | [] =>
        some (.ok (.array (schema.delivery arguments store.promises.size).1),
          store.deferAll (schema.delivery arguments store.promises.size).2)
      | first :: others => some (.error (.invalid ⟨.arguments, first, others⟩), store) := by
  simp only [Store.run, check, perform_checkThen]
  cases schema.issues arguments with
  | nil => rfl
  | cons first others => rfl

end ParameterSchema

end CallContracts
