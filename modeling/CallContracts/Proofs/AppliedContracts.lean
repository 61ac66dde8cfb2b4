import CallContracts.Contract
import CallContracts.Proofs.Guards
import CallContracts.Proofs.Identities
import CallContracts.Proofs.Shapes

/-!
# Applying contracts

There are three ways in which a contract is applied to a function. It is taken at its word, if it is
annotated with the expected shape and the contract is not strict; then nothing happens. It is put
under guard, if it is not annotated, or if the contract is strict and the annotation has the
expected shape; then one function is made, the guard. And it is refused if its annotation has
another shape. No annotation changes in any case.
-/

namespace CallContracts

namespace Store

/-- The function is annotated with a signature of this shape. -/
def DeclaredLike (store : Store) (id : CallableId) (expected : Signature) : Prop :=
  ∃ actual, store.declared? id = some actual ∧ actual.withoutNames = expected.withoutNames

/-- The function is annotated with a signature of this shape, or not annotated. -/
def Suits (store : Store) (id : CallableId) (expected : Signature) : Prop :=
  ∀ actual, store.declared? id = some actual → actual.withoutNames = expected.withoutNames

variable {store later : Store}

theorem DeclaredLike.suits {id : CallableId} {expected : Signature}
    (like : store.DeclaredLike id expected) : store.Suits id expected := by
  rcases like with ⟨actual, declared, same⟩
  intro other found
  rw [declared, Option.some.injEq] at found
  exact found ▸ same

theorem AddsFunctions.guards {schema : FunctionSchema} {target guard : CallableId}
    (adds : store.AddsFunctions later) (known : store.Knows guard)
    (guards : store.Guards schema target guard) : later.Guards schema target guard := by
  unfold Guards at guards ⊢
  rw [adds.callable_eq known, guards]

theorem AddsFunctions.suits_iff (adds : store.AddsFunctions later) {id : CallableId}
    {expected : Signature} : later.Suits id expected ↔ store.Suits id expected := by
  simp only [Suits, adds.declared?_eq]

end Store

theorem FunctionSchema.onlyMakes_implement (schema : FunctionSchema) (target : CallableId)
    (store : Store) : store.OnlyMakes (schema.implement target store).2 :=
  ⟨store.addsFunctions_newCallable _ _, rfl⟩

theorem FunctionSchema.gains_implement (schema : FunctionSchema) (target : CallableId)
    (store : Store) :
    store.Gains (schema.implement target store).2 (schema.implement target store).1 :=
  store.gains_newCallable _ _

namespace Contract

/-- What may come of applying a contract to a function. -/
inductive Applied (contract : Contract) (candidate : CallableId) (store : Store) :
    Except Fault (CallableId × Store) → Prop where
  | taken (declared : store.DeclaredLike candidate contract.expected)
      (lenient : contract.strict = false) : Applied contract candidate store (.ok (candidate, store))
  | guarded (suits : store.Suits candidate contract.expected)
      (doubted : store.declared? candidate = none ∨ contract.strict = true) :
      Applied contract candidate store (.ok (contract.schema.implement candidate store))
  | refused {actual : Signature} (declared : store.declared? candidate = some actual)
      (differs : actual.withoutNames ≠ contract.expected.withoutNames) :
      Applied contract candidate store (.error (.signatureMismatch contract.expected actual))

theorem applied (contract : Contract) (candidate : CallableId) (store : Store) :
    contract.Applied candidate store (contract.apply candidate store) := by
  unfold apply
  cases declared : store.declared? candidate with
  | none =>
      refine .guarded ?_ (Or.inl declared)
      intro actual found
      simp [declared] at found
  | some actual =>
      have decides := actual.compatible_iff contract.expected
      cases compatible : actual.compatible contract.expected with
      | false =>
          have differs : actual.withoutNames ≠ contract.expected.withoutNames := by
            intro same
            simp [decides.mpr same] at compatible
          simpa [compatible] using Applied.refused declared differs
      | true =>
          have like : store.DeclaredLike candidate contract.expected :=
            ⟨actual, declared, decides.mp compatible⟩
          cases strict : contract.strict with
          | false => simpa [compatible, strict] using Applied.taken like strict
          | true => simpa [compatible, strict] using Applied.guarded like.suits (Or.inr strict)

variable {contract : Contract} {candidate checked : CallableId} {store later : Store}

/-- The contract takes the function at its word. -/
def Trusts (contract : Contract) (store : Store) (candidate : CallableId) : Prop :=
  store.DeclaredLike candidate contract.expected ∧ contract.strict = false

/-- What a contract makes of a function that it does not refuse: the function itself if it is
trusted, and otherwise a new guard over it. -/
inductive Makes (contract : Contract) (store : Store) (candidate : CallableId) :
    CallableId → Store → Prop where
  | same (trusts : contract.Trusts store candidate) : Makes contract store candidate candidate store
  | guard (doubts : ¬contract.Trusts store candidate) {checked : CallableId} {later : Store}
      (gains : store.Gains later checked)
      (guards : later.Guards contract.schema candidate checked) :
      Makes contract store candidate checked later

theorem makes_of_apply (applies : contract.apply candidate store = .ok (checked, later)) :
    contract.Makes store candidate checked later := by
  have applied := contract.applied candidate store
  rw [applies] at applied
  cases applied with
  | taken declared lenient => exact .same ⟨declared, lenient⟩
  | guarded suits doubted =>
      refine .guard ?_ (contract.schema.gains_implement candidate store)
        (Store.guards_implement store contract.schema candidate)
      rintro ⟨⟨actual, declared, _⟩, lenient⟩
      rcases doubted with unannotated | strict
      · simp [unannotated] at declared
      · simp [lenient] at strict

theorem onlyMakes_of_apply (applies : contract.apply candidate store = .ok (checked, later)) :
    store.OnlyMakes later := by
  have applied := contract.applied candidate store
  rw [applies] at applied
  cases applied with
  | taken => exact .refl store
  | guarded => exact contract.schema.onlyMakes_implement candidate store

theorem exists_apply_of_suits (suits : store.Suits candidate contract.expected) :
    ∃ checked later, contract.apply candidate store = .ok (checked, later) := by
  have applied := contract.applied candidate store
  cases applies : contract.apply candidate store with
  | ok result => exact ⟨result.1, result.2, rfl⟩
  | error fault =>
      rw [applies] at applied
      cases applied with
      | refused declared differs => exact absurd (suits _ declared) differs

/-- A contract refuses a function exactly if it is annotated with another shape, and says so. -/
theorem apply_eq_error_iff {fault : Fault} :
    contract.apply candidate store = .error fault ↔
      ∃ actual, store.declared? candidate = some actual ∧
        actual.withoutNames ≠ contract.expected.withoutNames ∧
        fault = .signatureMismatch contract.expected actual := by
  constructor
  · intro applies
    have applied := contract.applied candidate store
    rw [applies] at applied
    cases applied with
    | refused declared differs => exact ⟨_, declared, differs, rfl⟩
  · rintro ⟨actual, declared, differs, rfl⟩
    cases applies : contract.apply candidate store with
    | ok result =>
        have applied := contract.applied candidate store
        rw [applies] at applied
        cases applied with
        | taken like lenient => exact absurd (like.suits actual declared) differs
        | guarded suits doubted => exact absurd (suits actual declared) differs
    | error other =>
        have applied := contract.applied candidate store
        rw [applies] at applied
        cases applied with
        | refused found _ =>
            rw [declared, Option.some.injEq] at found
            rw [found]

end Contract

end CallContracts
