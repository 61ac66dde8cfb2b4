import Mathlib.Logic.Relation
import CallContracts.Proofs.Invariant
import CallContracts.Schema.Function
import CallContracts.Settle

/-!
# Sessions

Contracts are used from outside: somebody makes functions and promises, puts functions under guard,
calls them, awaits promises, checks and settles values, in any order and as often as is liked. What
a call returned may be an argument of the next one, and code that was brought along may itself call
guards and await their promises.

A session is a sequence of such steps. What every step of a program keeps is kept by settling, which
only awaits promises, and so by every session.
-/

namespace CallContracts

/-! ## What settling keeps -/

section Walk

variable {follow : PromiseId → Store → Option (Except Fault (Settled Value) × Store)}
  {store later : Store}

/-- A walk over an array is the walk over its items. -/
theorem Value.settle_array_eq_some {items : List Value} {result : Except Fault (Settled Value)}
    (ends : (Value.array items).settle follow store = some (result, later)) :
    (∃ fault, Value.settleList follow items store = some (.error fault, later) ∧
      result = .error fault) ∨
    ∃ settled, Value.settleList follow items store = some (.ok settled, later) ∧
      result = .ok (settled.map .array) := by
  simp only [Value.settle] at ends
  cases walked : Value.settleList follow items store with
  | none => simp [walked] at ends
  | some reached =>
      rcases reached with ⟨fault | settled, reached⟩
      all_goals
        simp only [walked, Option.some.injEq, Prod.mk.injEq] at ends
        rcases ends with ⟨rfl, rfl⟩
      · exact Or.inl ⟨fault, rfl, rfl⟩
      · exact Or.inr ⟨settled, rfl, rfl⟩

/-- A walk over items is the walk over the first one, and then the walk over the others unless a
fault ends it before. -/
theorem Value.settleList_cons_eq_some {item : Value} {items : List Value}
    {result : Except Fault (Settled (List Value))}
    (ends : Value.settleList follow (item :: items) store = some (result, later)) :
    (∃ fault, item.settle follow store = some (.error fault, later) ∧ result = .error fault) ∨
    ∃ first middle, item.settle follow store = some (.ok first, middle) ∧
      ((∃ fault, Value.settleList follow items middle = some (.error fault, later) ∧
        result = .error fault) ∨
      ∃ others, Value.settleList follow items middle = some (.ok others, later) ∧
        result = .ok (first.cons others)) := by
  simp only [Value.settleList] at ends
  cases walkedFirst : item.settle follow store with
  | none => simp [walkedFirst] at ends
  | some middle =>
      rcases middle with ⟨fault | first, middle⟩
      · simp only [walkedFirst, Option.some.injEq, Prod.mk.injEq] at ends
        rcases ends with ⟨rfl, rfl⟩
        exact Or.inl ⟨fault, rfl, rfl⟩
      · refine Or.inr ⟨first, middle, rfl, ?_⟩
        simp only [walkedFirst] at ends
        cases walked : Value.settleList follow items middle with
        | none => simp [walked] at ends
        | some reached =>
            rcases reached with ⟨fault | others, reached⟩
            all_goals
              simp only [walked, Option.some.injEq, Prod.mk.injEq] at ends
              rcases ends with ⟨rfl, rfl⟩
            · exact Or.inl ⟨fault, rfl, rfl⟩
            · exact Or.inr ⟨others, rfl, rfl⟩

variable {Holds : Store → Prop}

mutual

/-- The walk over a value changes the store only where it follows promises. -/
theorem Value.settle_keeps
    (followed : ∀ {promise store result later}, Holds store →
      follow promise store = some (result, later) → Holds later)
    (value : Value) {store later : Store} {result : Except Fault (Settled Value)}
    (holds : Holds store) (ends : value.settle follow store = some (result, later)) :
    Holds later := by
  cases value with
  | promise id =>
      simp only [Value.settle] at ends
      exact followed holds ends
  | array items =>
      rcases Value.settle_array_eq_some ends with ⟨_, walked, _⟩ | ⟨_, walked, _⟩
      · exact Value.settleList_keeps followed items holds walked
      · exact Value.settleList_keeps followed items holds walked
  | _ =>
      simp only [Value.settle, Option.some.injEq, Prod.mk.injEq] at ends
      exact ends.2 ▸ holds
termination_by structural value

theorem Value.settleList_keeps
    (followed : ∀ {promise store result later}, Holds store →
      follow promise store = some (result, later) → Holds later)
    (items : List Value) {store later : Store} {result : Except Fault (Settled (List Value))}
    (holds : Holds store) (ends : Value.settleList follow items store = some (result, later)) :
    Holds later := by
  cases items with
  | nil =>
      simp only [Value.settleList, Option.some.injEq, Prod.mk.injEq] at ends
      exact ends.2 ▸ holds
  | cons item items =>
      rcases Value.settleList_cons_eq_some ends with
        ⟨_, walked, _⟩ | ⟨_, middle, walkedFirst, others⟩
      · exact Value.settle_keeps followed item holds walked
      · have holdsMiddle := Value.settle_keeps followed item holds walkedFirst
        rcases others with ⟨_, walked, _⟩ | ⟨_, walked, _⟩
        · exact Value.settleList_keeps followed items holdsMiddle walked
        · exact Value.settleList_keeps followed items holdsMiddle walked
termination_by structural items

end

end Walk

namespace Store

/-- A promise is followed by awaiting it. The walk goes on in its resolution, a failure is left to
be gathered, and any other fault ends the walk. -/
theorem follow_eq_some {depth : Nat} {promise : PromiseId} {store later : Store}
    {result : Except Fault (Settled Value)}
    (ends : follow (depth + 1) promise store = some (result, later)) :
    (∃ resolution middle, store.await (depth + 1) promise = some (.ok resolution, middle) ∧
      resolution.settle (follow depth) middle = some (result, later)) ∨
    (∃ failure, store.await (depth + 1) promise = some (.error (.invalid failure), later) ∧
      result = .ok (.error failure)) ∨
    ∃ fault, store.await (depth + 1) promise = some (.error fault, later) ∧
      (∀ failure, fault ≠ .invalid failure) ∧ result = .error fault := by
  simp only [follow] at ends
  split at ends
  · simp at ends
  · rename_i resolution middle awaited
    exact Or.inl ⟨resolution, middle, awaited, ends⟩
  · rename_i failure reached awaited
    simp only [Option.some.injEq, Prod.mk.injEq] at ends
    rcases ends with ⟨rfl, rfl⟩
    exact Or.inr (Or.inl ⟨failure, awaited, rfl⟩)
  · rename_i fault reached noFailure awaited
    simp only [Option.some.injEq, Prod.mk.injEq] at ends
    rcases ends with ⟨rfl, rfl⟩
    refine Or.inr (Or.inr ⟨fault, awaited, ?_, rfl⟩)
    rintro failure rfl
    exact noFailure failure rfl

/-- Settling is the walk over the values. Failures that were gathered are reported as one. -/
theorem settle_eq_some {depth : Nat} {values : List Value} {phase : Phase} {store later : Store}
    {result : Except Fault (List Value)}
    (ends : store.settle depth values phase = some (result, later)) :
    (∃ fault, Value.settleList (follow depth) values store = some (.error fault, later) ∧
      result = .error fault) ∨
    (∃ settled, Value.settleList (follow depth) values store = some (.ok (.ok settled), later) ∧
      result = .ok settled) ∨
    ∃ failure, Value.settleList (follow depth) values store = some (.ok (.error failure), later) ∧
      result = .error (.invalid { failure with phase }) := by
  unfold settle at ends
  cases walked : Value.settleList (follow depth) values store with
  | none => simp [walked] at ends
  | some reached =>
      rcases reached with ⟨fault | failure | settled, reached⟩
      all_goals
        simp only [walked, Option.some.injEq, Prod.mk.injEq] at ends
        rcases ends with ⟨rfl, rfl⟩
      · exact Or.inl ⟨fault, rfl, rfl⟩
      · exact Or.inr (Or.inr ⟨failure, rfl, rfl⟩)
      · exact Or.inr (Or.inl ⟨settled, rfl, rfl⟩)

section

variable {Holds : Store → Prop}

/-- Following a promise keeps what awaiting promises keeps. -/
theorem follow_keeps
    (awaited : ∀ {depth promise store settlement later}, Holds store →
      store.await depth promise = some (settlement, later) → Holds later)
    (depth : Nat) {promise : PromiseId} {store later : Store}
    {result : Except Fault (Settled Value)} (holds : Holds store)
    (ends : follow depth promise store = some (result, later)) : Holds later := by
  induction depth generalizing promise store later result with
  | zero => simp [follow] at ends
  | succ depth ih =>
      rcases follow_eq_some ends with
        ⟨resolution, middle, driven, walked⟩ | ⟨_, driven, _⟩ | ⟨_, driven, _⟩
      · exact resolution.settle_keeps ih (awaited holds driven) walked
      · exact awaited holds driven
      · exact awaited holds driven

/-- Settling values keeps what awaiting promises keeps. -/
theorem settle_keeps
    (awaited : ∀ {depth promise store settlement later}, Holds store →
      store.await depth promise = some (settlement, later) → Holds later)
    {depth : Nat} {values : List Value} {phase : Phase} {store later : Store}
    {result : Except Fault (List Value)} (holds : Holds store)
    (ends : store.settle depth values phase = some (result, later)) : Holds later := by
  rcases settle_eq_some ends with ⟨_, walked, _⟩ | ⟨_, walked, _⟩ | ⟨_, walked, _⟩
  all_goals exact Value.settleList_keeps (follow_keeps awaited depth) values holds walked

end

end Store

/-- Somebody awaits a promise from outside. -/
def Store.AwaitsOnce (store later : Store) : Prop :=
  ∃ depth promise settlement, store.await depth promise = some (settlement, later)

/-- Settling awaits promises, one after the other, and does nothing else. -/
theorem Store.settle_awaits {depth : Nat} {values : List Value} {phase : Phase}
    {store later : Store} {result : Except Fault (List Value)}
    (ends : store.settle depth values phase = some (result, later)) :
    Relation.ReflTransGen Store.AwaitsOnce store later := by
  apply Store.settle_keeps _ Relation.ReflTransGen.refl ends
  intro depth promise middle settlement behind awaits awaited
  exact awaits.tail ⟨depth, promise, settlement, awaited⟩

/-! ## Steps from outside -/

/-- What can be run on a store: code of one's own, or an operation on functions, promises and
values. -/
inductive Request where
  | code (program : Program)
  | call (callee : CallableId) (arguments : List Value)
  | await (promise : PromiseId)
  | check (schema : Schema) (value : Value) (path : IssuePath)
  | checkArguments (schema : ParameterSchema) (arguments : List Value)
  | checkReturn (schema : FunctionSchema) (value : Value)

namespace Request

def program : Request → Program
  | .code program => program
  | .call callee arguments => .call callee arguments .finish
  | .await promise => .await promise .finish
  | .check schema value path => schema.check value path
  | .checkArguments schema arguments => schema.check arguments
  | .checkReturn schema value => schema.checkReturn value

/-- Whether code of one's own, if it is what is run, meets a condition. -/
def Meets (condition : Program → Prop) : Request → Prop
  | .code program => condition program
  | _ => True

end Request

namespace Store

/-- One step of a session in which all code that is brought along meets a condition. -/
inductive Step (condition : Program → Prop) : Store → Store → Prop where
  /-- A function is made. -/
  | function {store : Store} (name : Option String) (body : List Value → Program)
      (meets : ∀ arguments, condition (body arguments)) :
      Step condition store (store.newCallable name body).2
  /-- A promise is made. -/
  | promise {store : Store} (work : Program) (meets : condition work) :
      Step condition store (store.newPromise work).2
  /-- A function is put under guard. -/
  | guard {store : Store} (schema : FunctionSchema) (target : CallableId) :
      Step condition store (schema.implement target store).2
  | request {store later : Store} (request : Request) (depth : Nat) {settlement : Settlement}
      (meets : request.Meets condition)
      (ends : store.run depth request.program = some (settlement, later)) :
      Step condition store later
  | settle {store later : Store} {values : List Value} {phase : Phase} {depth : Nat}
      {result : Except Fault (List Value)}
      (ends : store.settle depth values phase = some (result, later)) :
      Step condition store later

/-- A session leads from one store to the other. -/
abbrev Session (condition : Program → Prop) : Store → Store → Prop :=
  Relation.ReflTransGen (Step condition)

/-- Where each step of a program leads, each step from outside leads. -/
theorem Passage.step {Leads : Store → Store → Prop} (passage : Passage Leads)
    {condition : Program → Prop} {store later : Store} (step : Step condition store later) :
    Leads store later := by
  cases step with
  | function name body meets => exact passage.newCallable store name body
  | promise work meets => exact passage.newPromise store work
  | guard schema target => exact passage.newCallable store _ _
  | request request depth meets ends => exact passage.run ends
  | settle ends =>
      exact settle_keeps (fun leads awaited => passage.trans leads (passage.run awaited))
        (passage.refl store) ends

/-- Where each step of a program leads, every session leads. -/
theorem Passage.session {Leads : Store → Store → Prop} (passage : Passage Leads)
    {condition : Program → Prop} {store later : Store}
    (session : Session condition store later) : Leads store later := by
  induction session with
  | refl => exact passage.refl store
  | tail _ step ih => exact passage.trans ih (passage.step step)

/-- What each step of a program keeps, every session keeps. -/
theorem Invariant.session {Holds : Store → Prop} (invariant : Invariant Holds)
    {condition : Program → Prop} {store later : Store} (session : Session condition store later)
    (holds : Holds store) : Holds later :=
  invariant.passage.session session holds

/-- Once a promise has settled, it stays settled like that. -/
theorem settlement?_of_session {condition : Program → Prop} {store later : Store}
    {promise : PromiseId} {settlement : Settlement} (known : promise.index < store.promises.size)
    (noted : store.settlement? promise = some settlement)
    (session : Session condition store later) : later.settlement? promise = some settlement := by
  rw [settlement?_eq_some_iff] at noted ⊢
  exact ((noted_invariant promise settlement).session session ⟨known, noted⟩).2

end Store

end CallContracts
