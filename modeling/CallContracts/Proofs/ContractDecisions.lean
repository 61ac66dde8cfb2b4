import Mathlib.Logic.Relation
import CallContracts.Proofs.AnnotationHistory
import CallContracts.Proofs.BlindRuns
import CallContracts.Proofs.Enforcement

/-!
# Decisions of contracts

A contract decides by the annotation that a function has at that moment. It refuses the function,
takes it as it is, or hands out a new function that enforces the expected signature around it.

The decision is final. What was handed out goes on enforcing the same signature around the same
function, whatever is done afterwards, since functions do not change and their annotations are not
read by programs. A later application decides anew, by the annotation of what it is applied to.
-/

namespace CallContracts

/-! ## Courses of operations -/

namespace Store

/-- Operations that meet a condition were carried out, one after the other. -/
abbrev Course (condition : Operation → Prop) : Store → Store → Prop :=
  Relation.ReflTransGen fun store later =>
    ∃ (operation : Operation) (answer : Answer), condition operation ∧
      operation.carryOut store = some (answer, later)

/-- Functions that had been made are the same as before, apart from their annotations. -/
def KeepsFunctions (store later : Store) : Prop :=
  ∀ id, store.Knows id →
    later.Knows id ∧ (later.callable id).unannotated = (store.callable id).unannotated

variable {store later : Store}

theorem KeepsFunctions.trans {middle : Store} (first : store.KeepsFunctions middle)
    (second : middle.KeepsFunctions later) : store.KeepsFunctions later := by
  intro id known
  rcases first id known with ⟨knownThen, sameThen⟩
  rcases second id knownThen with ⟨knownLater, same⟩
  exact ⟨knownLater, same.trans sameThen⟩

theorem KeepsFunctions.guards (keeps : store.KeepsFunctions later) {schema : FunctionSchema}
    {target guard : CallableId} (known : store.Knows guard)
    (guards : store.Guards schema target guard) : later.Guards schema target guard := by
  have same := (keeps guard known).2
  unfold Guards at guards ⊢
  rw [← guards]
  exact (Callable.mk.inj same).2.1

end Store

namespace Operation

variable {operation : Operation} {answer : Answer} {store later : Store}

theorem keepsFunctions (ends : operation.carryOut store = some (answer, later)) :
    store.KeepsFunctions later := by
  intro id known
  rcases attaches_or_makes ends with ⟨target, signature, attaches⟩ | ⟨_, makes⟩
  · have underlies := Store.Underlies.of_annotate store target signature
    rw [attaches.annotates]
    exact ⟨(Store.knows_annotate_iff signature).mpr known, underlies.unannotated_callable known⟩
  · exact ⟨makes.adds.knows known, by rw [makes.adds.callable_eq known]⟩

theorem underlies (noRun : ¬operation.IsRun)
    (ends : operation.carryOut store = some (answer, later)) : store.Underlies later := by
  rcases attaches_or_makes ends with ⟨target, signature, attaches⟩ | ⟨_, makes⟩
  · rw [attaches.annotates]
    exact .of_annotate store target signature
  · exact .of_onlyMakes ⟨makes.adds, makes.rest noRun⟩

end Operation

namespace Store

variable {store later : Store}

theorem keepsFunctions_of_course {condition : Operation → Prop}
    (course : Course condition store later) : store.KeepsFunctions later := by
  induction course with
  | refl => exact fun _ known => ⟨known, rfl⟩
  | tail _ step ih =>
      rcases step with ⟨operation, answer, _, ends⟩
      exact ih.trans (Operation.keepsFunctions ends)

theorem underlies_of_course (course : Course (fun operation => ¬operation.IsRun) store later) :
    store.Underlies later := by
  induction course with
  | refl => exact .refl store
  | tail _ step ih =>
      rcases step with ⟨operation, answer, noRun, ends⟩
      exact ih.trans (operation.underlies noRun ends)

end Store

/-! ## Decisions -/

namespace Contract

/-- How a contract decides on a function. -/
structure Decides (contract : Contract) (candidate : CallableId) (store : Store) : Prop where
  refuses : ∀ fault, contract.apply candidate store = .error fault ↔
    ∃ actual, store.declared? candidate = some actual ∧
      actual.withoutNames ≠ contract.expected.withoutNames ∧
      fault = .signatureMismatch contract.expected actual
  trusts : ∀ later, contract.apply candidate store = .ok (candidate, later) ↔
    contract.Trusts store candidate ∧ later = store
  guards : store.Suits candidate contract.expected → ¬contract.Trusts store candidate →
    ∃ checked later, contract.apply candidate store = .ok (checked, later) ∧
      store.OnlyMakes later ∧ store.Gains later checked ∧
      later.Enforces contract.schema candidate checked

/-- What a contract made of a function stays what it is, whatever is done afterwards. -/
structure Stands (contract : Contract) (candidate checked : CallableId) (store : Store) :
    Prop where
  enforces : checked ≠ candidate → ∀ later, store.Course (fun _ => True) later →
    later.Enforces contract.schema candidate checked ∧
    (later.callable candidate).unannotated = (store.callable candidate).unannotated
  /-- Its calls come to the same after whatever is done without running anything. If functions were
  made besides, this is said of the calls that make none. -/
  alike : checked ≠ candidate → ∀ later, store.Course (fun operation => ¬operation.IsRun) later →
    ∀ depth arguments settlement reached,
      store.call depth checked arguments = some (settlement, reached) →
      Store.Comparable store later reached →
      Store.Echoes store later reached settlement (later.call depth checked arguments)
  /-- Its calls do not end either if only annotations are others. -/
  endless : checked ≠ candidate →
    ∀ later, store.Course (fun operation => ¬operation.IsRun) later →
    later.callables.size = store.callables.size → ∀ depth arguments,
      store.call depth checked arguments = none → later.call depth checked arguments = none
  /-- As long as it is not annotated, it is put under guard itself. -/
  again : checked ≠ candidate → ∀ later, store.Course (fun _ => True) later →
    later.declared? checked = none →
    ∃ outer behind, contract.apply checked later = .ok (outer, behind) ∧
      later.Gains behind outer ∧ behind.Enforces contract.schema checked outer
  same : checked = candidate → ∀ later, store.Course (fun _ => True) later →
    later.DeclaredLike candidate contract.expected →
    contract.apply candidate later = .ok (candidate, later)

variable {contract : Contract} {candidate checked : CallableId} {store later : Store}

theorem ofSignature_eq_ok {expected : Signature} {strict : Bool}
    (made : ofSignature expected strict = .ok contract) :
    FunctionSchema.compile contract.expected = .ok contract.schema ∧
      contract.expected = expected ∧ contract.strict = strict := by
  unfold ofSignature at made
  cases compiles : FunctionSchema.compile expected with
  | error fault => simp [compiles, bind, Except.bind] at made
  | ok schema =>
      simp only [compiles, bind, Except.bind, pure, Except.pure, Except.ok.injEq] at made
      subst made
      have same : Contract.expected ⟨schema, strict⟩ = expected :=
        (FunctionSchema.compile_eq_ok.mp compiles).2.1
      exact ⟨same ▸ compiles, same, rfl⟩

/-- What a contract hands out in place of a function is new and enforces the signature. -/
theorem enforces_of_apply
    (compiles : FunctionSchema.compile contract.expected = .ok contract.schema)
    (doubts : ¬contract.Trusts store candidate)
    (applies : contract.apply candidate store = .ok (checked, later)) :
    store.Gains later checked ∧ later.Enforces contract.schema candidate checked := by
  cases makes_of_apply applies with
  | same trusts => exact absurd trusts doubts
  | guard _ gains guards => exact ⟨gains, Store.enforces_of_guards compiles guards⟩

theorem decides (compiles : FunctionSchema.compile contract.expected = .ok contract.schema)
    (known : store.Knows candidate) : contract.Decides candidate store := by
  refine ⟨fun fault => apply_eq_error_iff, ?_, ?_⟩
  · intro later
    constructor
    · intro applies
      cases makes_of_apply applies with
      | same trusts => exact ⟨trusts, rfl⟩
      | guard _ gains _ => exact absurd known gains.unknown
    · rintro ⟨trusts, rfl⟩
      rcases exists_apply_of_suits trusts.1.suits with ⟨checked, behind, applies⟩
      rw [applies]
      cases makes_of_apply applies with
      | same => rfl
      | guard doubts => exact absurd trusts doubts
  · intro suits doubts
    rcases exists_apply_of_suits suits with ⟨checked, later, applies⟩
    rcases enforces_of_apply compiles doubts applies with ⟨gains, enforces⟩
    exact ⟨checked, later, applies, onlyMakes_of_apply applies, gains, enforces⟩

theorem stands_of_apply (compiles : FunctionSchema.compile contract.expected = .ok contract.schema)
    (known : store.Knows candidate)
    (applies : contract.apply candidate store = .ok (checked, later)) :
    contract.Stands candidate checked later := by
  cases makes_of_apply applies with
  | same trusts =>
      refine ⟨absurd rfl, absurd rfl, absurd rfl, absurd rfl, ?_⟩
      intro _ further course declared
      have knownThen := (Store.keepsFunctions_of_course course candidate known).1
      exact ((decides compiles knownThen).trusts further).mpr ⟨⟨declared, trusts.2⟩, rfl⟩
  | guard doubts gains guards =>
      have knownLater : later.Knows candidate := (onlyMakes_of_apply applies).adds.knows known
      refine ⟨?_, ?_, ?_, ?_, ?_⟩
      · intro _ further course
        have keeps := Store.keepsFunctions_of_course course
        have stillGuards := keeps.guards gains.known guards
        exact ⟨Store.enforces_of_guards compiles stillGuards, (keeps candidate knownLater).2⟩
      · intro _ further course depth arguments settlement reached ends comparable
        exact Store.run_echoes (Store.underlies_of_course course) ends comparable
      · intro _ further course sameSize depth arguments endless
        exact Store.run_eq_none_of_underlies (Store.underlies_of_course course) sameSize endless
      · intro _ further course unannotated
        have knownThen := (Store.keepsFunctions_of_course course checked gains.known).1
        have suits : further.Suits checked contract.expected := by
          intro actual declared
          simp [unannotated] at declared
        have doubtsThen : ¬contract.Trusts further checked := by
          rintro ⟨⟨actual, declared, _⟩, _⟩
          simp [unannotated] at declared
        rcases (decides compiles knownThen).guards suits doubtsThen with
          ⟨outer, behind, appliesThen, _, gainsThen, enforces⟩
        exact ⟨outer, behind, appliesThen, gainsThen, enforces⟩
      · rintro rfl
        exact absurd known gains.unknown

end Contract

/-- A contract decides on a function by the annotation that it has at that moment. It refuses it
exactly if the annotation has another shape than expected, gives it back exactly if the annotation
has that shape and the contract is not strict, and hands out a new function otherwise. What it
decided stands, whatever is done afterwards. -/
theorem contract_decides_for_good {expected : Signature} {strict : Bool} {contract : Contract}
    (made : Contract.ofSignature expected strict = .ok contract) {candidate : CallableId}
    {store : Store} (known : store.Knows candidate) :
    (contract.expected = expected ∧ contract.strict = strict) ∧
    contract.Decides candidate store ∧
    ∀ checked later, contract.apply candidate store = .ok (checked, later) →
      contract.Stands candidate checked later := by
  rcases Contract.ofSignature_eq_ok made with ⟨compiles, same⟩
  refine ⟨same, Contract.decides compiles known, ?_⟩
  intro checked later applies
  exact Contract.stands_of_apply compiles known applies

/-- A function without annotation is put under guard and annotated with another shape afterwards.
The guard enforces the expected signature as before, while the function itself is refused now. -/
theorem contract_decides_for_good_of_annotated_later :
    let expected : Signature :=
      ⟨false, [⟨some "n", false, .primitive .number⟩], .primitive .number⟩
    let other : Signature := ⟨true, [], .primitive .void⟩
    let candidate := Store.empty.newCallable (some "quack") fun arguments =>
      .finish (.ok (arguments.headD .undefined))
    ∃ contract, Contract.ofSignature expected false = .ok contract ∧
      candidate.2.Knows candidate.1 ∧
      let guard := contract.schema.implement candidate.1 candidate.2
      contract.apply candidate.1 candidate.2 = .ok guard ∧
      contract.Stands candidate.1 guard.1 guard.2 ∧
      (guard.2.annotate candidate.1 other).Enforces contract.schema candidate.1 guard.1 ∧
      contract.apply candidate.1 (guard.2.annotate candidate.1 other) =
        .error (.signatureMismatch expected other) := by
  intro expected other candidate
  have known : candidate.2.Knows candidate.1 := Nat.zero_lt_one
  have made : Contract.ofSignature expected false = .ok _ := rfl
  refine ⟨_, made, known, ?_⟩
  intro guard
  have stands := (contract_decides_for_good made known).2.2 guard.1 guard.2 rfl
  have knownLater : (guard.2.annotate candidate.1 other).Knows candidate.1 := Nat.zero_lt_two
  refine ⟨rfl, stands, ?_, ?_⟩
  · apply (stands.enforces (by decide) _ _).1
    exact .single ⟨.attach candidate.1 other, _, trivial, rfl⟩
  · apply ((contract_decides_for_good made knownLater).2.1.refuses _).mpr
    exact ⟨other, rfl, by decide, rfl⟩

end CallContracts
