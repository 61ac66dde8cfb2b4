import CallContracts.Proofs.Invariant

/-!
# Identities of functions

A function is what its identity stands for. A new function gets an identity that no function had
before, and it is not annotated, whatever it was made from. Nothing else is ever done to functions
while programs run: those that had been made stay what they are and keep their annotations. Only
annotating a function from outside changes an annotation, and it changes that of one identity.
-/

namespace CallContracts

namespace Store

/-- A function has been made under this identity. -/
def Knows (store : Store) (id : CallableId) : Prop :=
  id.index < store.callables.size

/-- All that became of the functions is that further ones were made, none of which is annotated. -/
def AddsFunctions (store later : Store) : Prop :=
  ∃ made : Array Callable, later.callables = store.callables ++ made ∧
    ∀ callable ∈ made, callable.declared = none

/-- Nothing happened but that functions were made, none of which is annotated. -/
structure OnlyMakes (store later : Store) : Prop where
  adds : store.AddsFunctions later
  rest : later = { store with callables := later.callables }

/-- The identity is new, and the function that was made under it is not annotated. -/
structure Gains (store later : Store) (id : CallableId) : Prop where
  unknown : ¬store.Knows id
  known : later.Knows id
  unannotated : later.declared? id = none

variable {store later : Store} {id : CallableId}

theorem addsFunctions_of_callables_eq (same : later.callables = store.callables) :
    store.AddsFunctions later :=
  ⟨#[], by simp [same], by simp⟩

theorem AddsFunctions.trans {middle : Store} (first : store.AddsFunctions middle)
    (second : middle.AddsFunctions later) : store.AddsFunctions later := by
  rcases first with ⟨made, callables, unannotated⟩
  rcases second with ⟨further, callablesLater, furtherUnannotated⟩
  refine ⟨made ++ further, ?_, ?_⟩
  · rw [callablesLater, callables, Array.append_assoc]
  · intro callable member
    rcases Array.mem_append.mp member with member | member
    · exact unannotated callable member
    · exact furtherUnannotated callable member

theorem addsFunctions_newCallable (store : Store) (name : Option String)
    (body : List Value → Program) : store.AddsFunctions (store.newCallable name body).2 := by
  refine ⟨#[⟨name, body, none⟩], ?_, ?_⟩
  · simp [newCallable]
  · intro callable member
    rw [Array.mem_singleton.mp member]

theorem addsFunctions_passage : Passage AddsFunctions where
  refl _ := addsFunctions_of_callables_eq rfl
  trans := AddsFunctions.trans
  record _ _ := addsFunctions_of_callables_eq rfl
  newPromise _ _ := addsFunctions_of_callables_eq rfl
  newCallable := addsFunctions_newCallable
  save _ _ _ := addsFunctions_of_callables_eq rfl
  settlePromise _ _ adds := adds.trans (addsFunctions_of_callables_eq rfl)

theorem AddsFunctions.knows (adds : store.AddsFunctions later) (known : store.Knows id) :
    later.Knows id := by
  rcases adds with ⟨made, callables, _⟩
  simp only [Knows, callables, Array.size_append] at known ⊢
  exact Nat.lt_add_right _ known

theorem AddsFunctions.callable_eq (adds : store.AddsFunctions later) (known : store.Knows id) :
    later.callable id = store.callable id := by
  rcases adds with ⟨made, callables, _⟩
  simp only [callable, callables, Array.getElem?_append_left known]

/-- No annotation changes. What has not been made yet is not annotated either. -/
theorem AddsFunctions.declared?_eq (adds : store.AddsFunctions later) (id : CallableId) :
    later.declared? id = store.declared? id := by
  by_cases known : store.Knows id
  · simp only [declared?, adds.callable_eq known]
  · rcases adds with ⟨made, callables, unannotated⟩
    have beyond : store.callables.size ≤ id.index := Nat.le_of_not_lt known
    simp only [declared?, callable, callables, Array.getElem?_append_right beyond,
      Array.getElem?_eq_none beyond, Option.getD_none]
    cases found : made[id.index - store.callables.size]? with
    | none => rfl
    | some callable => exact unannotated callable (Array.mem_of_getElem? found)

theorem OnlyMakes.refl (store : Store) : store.OnlyMakes store :=
  ⟨addsFunctions_of_callables_eq rfl, rfl⟩

theorem OnlyMakes.trans {middle : Store} (first : store.OnlyMakes middle)
    (second : middle.OnlyMakes later) : store.OnlyMakes later := by
  refine ⟨first.adds.trans second.adds, ?_⟩
  rw [second.rest, first.rest]

theorem gains_newCallable (store : Store) (name : Option String) (body : List Value → Program) :
    store.Gains (store.newCallable name body).2 (store.newCallable name body).1 where
  unknown := Nat.lt_irrefl _
  known := by simp [Knows, newCallable]
  unannotated := by simp [declared?, callable, newCallable]

/-- What is new stays new for those who knew less before, and unannotated as long as functions are
only made. -/
theorem Gains.widen {before after : Store} (gains : before.Gains after id)
    (earlier : store.AddsFunctions before) (behind : after.AddsFunctions later) :
    store.Gains later id where
  unknown known := gains.unknown (earlier.knows known)
  known := behind.knows gains.known
  unannotated := (behind.declared?_eq id).trans gains.unannotated

/-! ## Annotating a function -/

section Annotate

variable {target : CallableId}

theorem knows_annotate_iff (signature : Signature) :
    (store.annotate target signature).Knows id ↔ store.Knows id := by
  simp [Knows, annotate]

/-- Only the annotation of a function is exchanged, and of one function only. -/
theorem callable_annotate (known : store.Knows target) (signature : Signature) (id : CallableId) :
    (store.annotate target signature).callable id =
      if id = target then { store.callable id with declared := some signature }
      else store.callable id := by
  by_cases same : id = target
  · subst same
    unfold Knows at known
    simp [callable, annotate, Array.getElem_modify, known]
  · have apart : target.index ≠ id.index := by
      intro equal
      apply same
      cases id
      cases target
      simpa using equal.symm
    simp [callable, annotate, Array.getElem?_modify, apart, same]

theorem declared?_annotate_eq_ite (known : store.Knows target)
    (signature : Signature) (id : CallableId) :
    (store.annotate target signature).declared? id =
      if id = target then some signature else store.declared? id := by
  simp only [declared?, callable_annotate known]
  split <;> rfl

end Annotate

end Store

end CallContracts
