import CallContracts.Settle
import CallContracts.Proofs.Erasure
import CallContracts.Proofs.Invariant

/-!
# Settling what a check passes on

A check passes values on with promises that check their parts later; settling drives these promises.
A value without promises of its own settles to itself if its parts pass the check without promises,
and otherwise to some of the findings of that check.

The proof follows the walk of `Value.settle` over a delivered value. Each promise it meets was made
by the check and is still pending, because the walk drives every promise once and leaves all others
as they are: the promises of a value lie side by side in the store, and `Store.SameOutside` says
that the walk over a value changes no older promise but these.
-/

namespace CallContracts

mutual

/-- Whether no promise can be reached from the value through arrays. -/
def Value.isPromiseFree : Value → Bool
  | .promise _ => false
  | .array items => Value.arePromiseFree items
  | _ => true
termination_by structural value => value

/-- Whether no promise can be reached from any of the values through arrays. -/
def Value.arePromiseFree : List Value → Bool
  | [] => true
  | item :: items => item.isPromiseFree && Value.arePromiseFree items
termination_by structural items => items

end

mutual

/-- The walk leaves a value without promises as it is. -/
theorem Value.settle_of_isPromiseFree
    (follow : PromiseId → Store → Option (Except Fault (Settled Value) × Store)) (value : Value)
    (free : value.isPromiseFree) (store : Store) :
    value.settle follow store = some (.ok (.ok value), store) := by
  cases value with
  | promise id => simp [Value.isPromiseFree] at free
  | array items =>
      have items_free : Value.arePromiseFree items := by simpa [Value.isPromiseFree] using free
      simp [Value.settle, Value.settleList_of_arePromiseFree follow items items_free store,
        Except.map]
  | _ => simp [Value.settle]
termination_by structural value

theorem Value.settleList_of_arePromiseFree
    (follow : PromiseId → Store → Option (Except Fault (Settled Value) × Store))
    (items : List Value) (free : Value.arePromiseFree items) (store : Store) :
    Value.settleList follow items store = some (.ok (.ok items), store) := by
  cases items with
  | nil => simp [Value.settleList]
  | cons item items =>
      simp only [Value.arePromiseFree, Bool.and_eq_true] at free
      simp [Value.settleList, Value.settle_of_isPromiseFree follow item free.1 store,
        Value.settleList_of_arePromiseFree follow items free.2 store, Settled.cons]
termination_by structural items

end

namespace Store

/-- The promises from `first` on are pending and have these works. -/
def Awaits (store : Store) (first : Nat) (works : List Program) : Prop :=
  ∀ (index : Nat) (work : Program), works[index]? = some work →
    store.promises[first + index]? = some (.pending work)

/-- No promise of `store` has changed in `later` except those from `first` up to `behind`. -/
structure SameOutside (first behind : Nat) (store later : Store) : Prop where
  size_le : store.promises.size ≤ later.promises.size
  same : ∀ index < store.promises.size, index < first ∨ behind ≤ index →
    later.promises[index]? = store.promises[index]?

theorem awaits_deferAll (store : Store) (works : List Program) :
    (store.deferAll works).Awaits store.promises.size works := by
  intro index work found
  simp [deferAll, Array.getElem?_append, found]

theorem Awaits.left {store : Store} {first : Nat} {works others : List Program}
    (awaits : store.Awaits first (works ++ others)) : store.Awaits first works := by
  intro index work found
  apply awaits index work
  rw [List.getElem?_append_left (List.getElem?_eq_some_iff.mp found).1]
  exact found

theorem Awaits.right {store : Store} {first : Nat} {works others : List Program}
    (awaits : store.Awaits first (works ++ others)) :
    store.Awaits (first + works.length) others := by
  intro index work found
  rw [Nat.add_assoc]
  apply awaits (works.length + index) work
  rw [List.getElem?_append_right (Nat.le_add_right _ _), Nat.add_sub_cancel_left]
  exact found

theorem Awaits.lt_size {store : Store} {first index : Nat} {works : List Program}
    (awaits : store.Awaits first works) (inside : index < works.length) :
    first + index < store.promises.size := by
  have found := awaits index works[index] (by simp [inside])
  exact (Array.getElem?_eq_some_iff.mp found).1

/-- Promises outside the changed ones are still awaited. -/
theorem Awaits.of_sameOutside {store later : Store} {first behind next : Nat}
    {works : List Program} (awaits : store.Awaits next works) (outside : behind ≤ next)
    (same : SameOutside first behind store later) : later.Awaits next works := by
  intro index work found
  have inside : index < works.length := (List.getElem?_eq_some_iff.mp found).1
  rw [same.same (next + index) (awaits.lt_size inside) (Or.inr (by omega))]
  exact awaits index work found

theorem SameOutside.refl (store : Store) (first : Nat) : SameOutside first first store store :=
  ⟨Nat.le_refl _, fun _ _ _ => rfl⟩

theorem SameOutside.trans {store middle later : Store} {first between behind : Nat}
    (ordered : first ≤ between ∧ between ≤ behind)
    (one : SameOutside first between store middle)
    (two : SameOutside between behind middle later) : SameOutside first behind store later := by
  refine ⟨Nat.le_trans one.size_le two.size_le, ?_⟩
  intro index old outside
  rw [two.same index (by have := one.size_le; omega) (by omega), one.same index old (by omega)]

/-- Changes to promises that are new do not count. -/
theorem SameOutside.trans_of_new {store middle later : Store} {first behind new newBehind : Nat}
    (isNew : store.promises.size ≤ new) (one : SameOutside first behind store middle)
    (two : SameOutside new newBehind middle later) : SameOutside first behind store later := by
  refine ⟨Nat.le_trans one.size_le two.size_le, ?_⟩
  intro index old outside
  rw [two.same index (by have := one.size_le; omega) (Or.inl (by omega)),
    one.same index old outside]

/-- Settling a promise changes no other one, and making new ones changes none at all. -/
theorem sameOutside_settlePromise_deferAll (store : Store) (works : List Program)
    (promise : PromiseId) (settlement : Settlement) :
    SameOutside promise.index (promise.index + 1) store
      ((store.deferAll works).settlePromise promise settlement) := by
  refine ⟨by simp [settlePromise, deferAll], ?_⟩
  intro index old outside
  have other : promise.index ≠ index := by omega
  simp [settlePromise, deferAll, Array.getElem?_setIfInBounds_ne other,
    Array.getElem?_append_left old]

end Store

/-! ## What the walk over a delivered value comes to -/

namespace Settled

/-- The walk gave back the original, in which nothing is wrong, or it failed with some of the
findings about it. -/
def Agrees {α : Type} (original : α) (issues : List Issue) : Settled α → Prop
  | .ok settled => settled = original ∧ issues = []
  | .error failure =>
    (failure.issues.map Issue.finding).Sublist (issues.map Issue.finding)

theorem Agrees.cons {item : Value} {items : List Value} {itemIssues othersIssues : List Issue}
    {first : Settled Value} {others : Settled (List Value)}
    (firstAgrees : first.Agrees item itemIssues)
    (othersAgree : others.Agrees items othersIssues) :
    (first.cons others).Agrees (item :: items) (itemIssues ++ othersIssues) := by
  rcases first with left | settled <;> rcases others with right | others
  · have both := List.Sublist.append firstAgrees othersAgree
    simpa [Agrees, Settled.cons, ValidationFailure.append, ValidationFailure.issues] using both
  · rcases othersAgree with ⟨_, rfl⟩
    simpa [Agrees, Settled.cons] using firstAgrees
  · rcases firstAgrees with ⟨_, rfl⟩
    simpa [Agrees, Settled.cons] using othersAgree
  · rcases firstAgrees with ⟨rfl, rfl⟩
    rcases othersAgree with ⟨rfl, rfl⟩
    exact ⟨rfl, rfl⟩

theorem Agrees.array {items : List Value} {issues : List Issue} {settled : Settled (List Value)}
    (agrees : settled.Agrees items issues) :
    Agrees (Value.array items) issues (settled.map .array) := by
  rcases settled with failure | settled
  · exact agrees
  · rcases agrees with ⟨rfl, rfl⟩
    exact ⟨rfl, rfl⟩

end Settled

namespace Schema

/-- Whatever a schema without issues passed on, the walk over it ends, agrees with the check against
the erased schema, and drives no older promises but those that were made for it. -/
def SettlesDelivery (schema : Schema) : Prop :=
  ∀ {value : Value} {path : IssuePath} {first depth : Nat} {store : Store},
    value.isPromiseFree → schema.issues value path = [] → schema.promiseDepth + 1 ≤ depth →
    store.Awaits first (schema.delivery value path first).2 →
    ∃ settled later,
      (schema.delivery value path first).1.settle (Store.follow depth) store =
        some (.ok settled, later) ∧
      settled.Agrees value (schema.erasePromises.issues value path) ∧
      Store.SameOutside first (first + (schema.delivery value path first).2.length) store later

/-- Deliveries that make no promise are left as they are. -/
theorem settlesDelivery_of_unchanged {schema : Schema} {value : Value} {path : IssuePath}
    {first depth : Nat} {store : Store} (free : value.isPromiseFree)
    (accepted : schema.issues value path = []) (unerased : schema.erasePromises = schema)
    (unchanged : schema.delivery value path first = (value, [])) :
    ∃ settled later,
      (schema.delivery value path first).1.settle (Store.follow depth) store =
        some (.ok settled, later) ∧
      settled.Agrees value (schema.erasePromises.issues value path) ∧
      Store.SameOutside first (first + (schema.delivery value path first).2.length)
        store later := by
  refine ⟨.ok value, store, ?_, ?_, ?_⟩
  · rw [unchanged]
    exact Value.settle_of_isPromiseFree _ value free store
  · rw [unerased, accepted]
    exact ⟨rfl, rfl⟩
  · rw [unchanged]
    exact Store.SameOutside.refl store first

/-- The walk over delivered items takes them one after another. -/
theorem settleList_deliveryElements_of {schemas : List Schema}
    (each : ∀ schema ∈ schemas, schema.SettlesDelivery) {path : IssuePath} {index : Nat}
    {items : List Value} {first depth : Nat} {store : Store} (free : Value.arePromiseFree items)
    (accepted : elementIssues schemas path index items = [])
    (deep : promiseDepths schemas + 1 ≤ depth)
    (awaits : store.Awaits first (deliveryElements schemas path index items first).2) :
    ∃ settled later,
      Value.settleList (Store.follow depth) (deliveryElements schemas path index items first).1
        store = some (.ok settled, later) ∧
      settled.Agrees items (elementIssues (schemas.map erasePromises) path index items) ∧
      Store.SameOutside first
        (first + (deliveryElements schemas path index items first).2.length) store later := by
  induction schemas generalizing index items first store with
  | nil =>
      refine ⟨.ok items, store, ?_, ?_, ?_⟩
      · simp only [deliveryElements]
        exact Value.settleList_of_arePromiseFree _ items free store
      · simp [Settled.Agrees, elementIssues]
      · simpa [deliveryElements] using Store.SameOutside.refl store first
  | cons schema schemas ih =>
      cases items with
      | nil =>
          refine ⟨.ok [], store, ?_, ?_, ?_⟩
          · simp [deliveryElements, Value.settleList]
          · simp [Settled.Agrees, elementIssues]
          · simpa [deliveryElements] using Store.SameOutside.refl store first
      | cons item items =>
          simp only [Value.arePromiseFree, Bool.and_eq_true] at free
          simp only [elementIssues, List.append_eq_nil_iff] at accepted
          simp only [promiseDepths] at deep
          simp only [deliveryElements] at awaits ⊢
          have others : ∀ other ∈ schemas, other.SettlesDelivery :=
            fun other member => each other (List.mem_cons_of_mem _ member)
          have deepItem : schema.promiseDepth + 1 ≤ depth := by omega
          have deepItems : promiseDepths schemas + 1 ≤ depth := by omega
          rcases each schema List.mem_cons_self free.1 accepted.1 deepItem awaits.left with
            ⟨settledItem, middle, walkItem, agreesItem, sameItem⟩
          have awaitsOthers := awaits.right.of_sameOutside (Nat.le_refl _) sameItem
          rcases ih others free.2 accepted.2 deepItems awaitsOthers with
            ⟨settledItems, later, walkItems, agreesItems, sameItems⟩
          refine ⟨settledItem.cons settledItems, later, ?_, ?_, ?_⟩
          · simp [Value.settleList, walkItem, walkItems]
          · simpa only [List.map_cons, elementIssues] using agreesItem.cons agreesItems
          · rw [List.length_append, ← Nat.add_assoc]
            exact sameItem.trans ⟨Nat.le_add_right _ _, Nat.le_add_right _ _⟩ sameItems

theorem promiseDepths_replicate_le (element : Schema) (count : Nat) :
    promiseDepths (List.replicate count element) ≤ element.promiseDepth := by
  induction count with
  | zero => simp [promiseDepths]
  | succ count ih => simp [List.replicate_succ, promiseDepths, ih]

theorem resolve_of_isPromiseFree {value : Value} (free : value.isPromiseFree)
    (resume : Value → Program) : Program.resolve value resume = resume value := by
  cases value with
  | promise id => simp [Value.isPromiseFree] at free
  | _ => rfl

/-- Who awaits a promise that the check made for a plain value sees that value checked. -/
theorem await_work {inner : Schema} {value : Value} {path : IssuePath} {promise : PromiseId}
    {store : Store} (free : value.isPromiseFree)
    (pending : store.deferred promise = .pending (inner.work value path)) (depth : Nat) :
    store.await (depth + 2) promise =
      match inner.issues value path with
      | [] =>
        some (.ok (inner.delivery value path store.promises.size).1,
          ((store.record (.started promise)).deferAll
            (inner.delivery value path store.promises.size).2).settlePromise promise
              (.ok (inner.delivery value path store.promises.size).1))
      | first :: others =>
        some (.error (.invalid ⟨path.phase, first, others⟩),
          (store.record (.started promise)).settlePromise promise
            (.error (.invalid ⟨path.phase, first, others⟩))) := by
  simp only [Store.await, Store.run, Program.perform, pending, work,
    resolve_of_isPromiseFree free, Program.perform_check]
  cases inner.issues value path with
  | nil => rfl
  | cons first others => rfl

theorem settlesDelivery_promise {inner : Schema} (innerSettles : inner.SettlesDelivery) :
    (promise inner).SettlesDelivery := by
  intro value path first depth store free accepted deep awaits
  simp only [promiseDepth] at deep
  simp only [delivery] at awaits ⊢
  have found : store.promises[first]? = some (.pending (inner.work value path)) := by
    simpa using awaits 0 (inner.work value path) rfl
  have old : first < store.promises.size := (Array.getElem?_eq_some_iff.mp found).1
  have pending : store.deferred ⟨first⟩ = .pending (inner.work value path) := by
    simp [Store.deferred, found]
  have reachable : ∃ less, depth = less + 2 := ⟨depth - 2, by omega⟩
  rcases reachable with ⟨depth, rfl⟩
  cases wrong : inner.issues value path with
  | cons issue others =>
      refine ⟨.error ⟨path.phase, issue, others⟩,
        (store.record (.started ⟨first⟩)).settlePromise ⟨first⟩
          (.error (.invalid ⟨path.phase, issue, others⟩)), ?_, ?_, ?_⟩
      · simp only [Value.settle, Store.follow, await_work free pending, wrong]
      · have finds := inner.findsPart value path
        rw [wrong] at finds
        simpa [Settled.Agrees, ValidationFailure.issues, erasePromises] using finds
      · have same := Store.sameOutside_settlePromise_deferAll
          (store.record (.started ⟨first⟩)) [] ⟨first⟩
          (.error (.invalid ⟨path.phase, issue, others⟩))
        rw [Store.deferAll_nil] at same
        exact ⟨same.size_le, same.same⟩
  | nil =>
      generalize resolved : inner.delivery value path store.promises.size = resolution
      have same := Store.sameOutside_settlePromise_deferAll
        (store.record (.started ⟨first⟩)) resolution.2 ⟨first⟩ (.ok resolution.1)
      generalize reaches : ((store.record (.started ⟨first⟩)).deferAll resolution.2).settlePromise
        ⟨first⟩ (.ok resolution.1) = reached at same
      have awaitsInner : reached.Awaits store.promises.size resolution.2 := by
        intro index work isWork
        have apart : first ≠ store.promises.size + index := by omega
        have waits : ((store.record (.started ⟨first⟩)).deferAll resolution.2).promises[
            store.promises.size + index]? = some (.pending work) :=
          Store.awaits_deferAll (store.record (.started ⟨first⟩)) resolution.2 index work isWork
        rw [← reaches]
        simpa [Store.settlePromise, Array.getElem?_setIfInBounds_ne apart] using waits
      rw [← resolved] at awaitsInner
      have shallow : inner.promiseDepth + 1 ≤ depth + 1 := by omega
      rcases innerSettles free wrong shallow awaitsInner with
        ⟨settled, later, walk, agrees, sameInner⟩
      refine ⟨settled, later, ?_, ?_, ?_⟩
      · rw [resolved] at walk
        simp only [Value.settle, Store.follow, await_work free pending, wrong, resolved, reaches]
        exact walk
      · simpa only [erasePromises] using agrees
      · have sameFirst : Store.SameOutside first (first + 1) store reached :=
          ⟨same.size_le, same.same⟩
        exact sameFirst.trans_of_new (Nat.le_refl _) sameInner

/-- The walk over a delivered value finishes the check. -/
theorem settlesDelivery (schema : Schema) : schema.SettlesDelivery := by
  induction schema with
  | array element ih =>
      intro value path first depth store free accepted deep awaits
      cases value with
      | array items =>
          simp only [issues, itemIssues_eq_elementIssues] at accepted
          simp only [delivery, deliveryItems_eq_deliveryElements] at awaits ⊢
          have each : ∀ schema ∈ List.replicate items.length element, schema.SettlesDelivery := by
            intro schema member
            rw [List.eq_of_mem_replicate member]
            exact ih
          have deepItems : promiseDepths (List.replicate items.length element) + 1 ≤ depth := by
            have bound := promiseDepths_replicate_le element items.length
            simp only [promiseDepth] at deep
            omega
          have freeItems : Value.arePromiseFree items := by
            simpa [Value.isPromiseFree] using free
          rcases settleList_deliveryElements_of each freeItems accepted deepItems awaits with
            ⟨settled, later, walk, agrees, same⟩
          refine ⟨settled.map .array, later, ?_, ?_, same⟩
          · simp [Value.settle, walk]
          · simp only [erasePromises, issues, itemIssues_eq_elementIssues]
            rw [List.map_replicate] at agrees
            exact agrees.array
      | _ => simp [issues] at accepted
  | tuple elements ih =>
      intro value path first depth store free accepted deep awaits
      cases value with
      | array items =>
          simp only [issues] at accepted
          split at accepted
          · rename_i sameLength
            simp only [delivery] at awaits ⊢
            have freeItems : Value.arePromiseFree items := by
              simpa [Value.isPromiseFree] using free
            have deepItems : promiseDepths elements + 1 ≤ depth := by
              simpa only [promiseDepth] using deep
            rcases settleList_deliveryElements_of ih freeItems accepted deepItems awaits with
              ⟨settled, later, walk, agrees, same⟩
            refine ⟨settled.map .array, later, ?_, ?_, same⟩
            · simp [Value.settle, walk]
            · simpa [erasePromises, issues, eraseAllPromises_eq_map, sameLength] using agrees.array
          · simp at accepted
      | _ => simp [issues] at accepted
  | promise inner ih => exact settlesDelivery_promise ih
  | _ =>
      intro value path first depth store free accepted deep awaits
      exact settlesDelivery_of_unchanged free accepted (by simp [erasePromises])
        (by simp [delivery])

end Schema

end CallContracts
