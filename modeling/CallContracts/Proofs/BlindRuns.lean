import CallContracts.Proofs.Identities

/-!
# Runs do not see annotations

No step of a program reads an annotation, so a run comes to the same if functions are annotated
differently. Functions that were made besides make no difference either. Only the identities of
functions that the run itself makes are others then, so this holds of runs that make none.
-/

namespace CallContracts

/-- The function as it is without its annotation. -/
def Callable.unannotated (callable : Callable) : Callable :=
  { callable with declared := none }

namespace Store

/-- The other store is this one with other annotations, and perhaps with further functions. -/
inductive Underlies (store : Store) : Store → Prop where
  | intro {callables : Array Callable} (more : store.callables.size ≤ callables.size)
      (same : ∀ index < store.callables.size,
        callables[index]?.map Callable.unannotated =
          store.callables[index]?.map Callable.unannotated) :
      Underlies store { store with callables }

namespace Underlies

variable {store other : Store}

theorem refl (store : Store) : store.Underlies store :=
  .intro (Nat.le_refl _) fun _ _ => rfl

theorem trans {further : Store} (first : store.Underlies other)
    (second : other.Underlies further) : store.Underlies further := by
  cases first with
  | intro more same =>
      cases second with
      | intro moreThan sameThen =>
          apply Underlies.intro (Nat.le_trans more moreThan)
          intro index known
          rw [sameThen index (Nat.lt_of_lt_of_le known more), same index known]

theorem size_le (underlies : store.Underlies other) :
    store.callables.size ≤ other.callables.size := by
  cases underlies with
  | intro more _ => exact more

/-- Where there are equally many functions, each store is the other one with other annotations. -/
theorem symm (underlies : store.Underlies other)
    (sameSize : other.callables.size = store.callables.size) : other.Underlies store := by
  cases underlies with
  | @intro callables more same =>
      apply Underlies.intro (Nat.le_of_eq sameSize)
      intro index known
      exact (same index (sameSize ▸ known)).symm

theorem of_onlyMakes (makes : store.OnlyMakes other) : store.Underlies other := by
  rw [makes.rest]
  rcases makes.adds with ⟨made, callables, _⟩
  apply Underlies.intro
  · simp [callables]
  · intro index known
    rw [callables, Array.getElem?_append_left known]

theorem of_annotate (store : Store) (target : CallableId) (signature : Signature) :
    store.Underlies (store.annotate target signature) := by
  apply Underlies.intro
  · simp
  · intro index _
    rw [Array.getElem?_modify]
    split
    · cases store.callables[index]? <;> rfl
    · rfl

theorem unannotated_callable (underlies : store.Underlies other) {id : CallableId}
    (known : store.Knows id) :
    (other.callable id).unannotated = (store.callable id).unannotated := by
  cases underlies with
  | @intro callables more same =>
      have knownToo : id.index < callables.size := Nat.lt_of_lt_of_le known more
      have sameHere := same id.index known
      unfold Knows at known
      simpa [callable, known, knownToo] using sameHere

theorem body_eq (underlies : store.Underlies other) {id : CallableId} (known : store.Knows id) :
    (other.callable id).body = (store.callable id).body := by
  have same := underlies.unannotated_callable known
  exact (Callable.mk.inj same).2.1

theorem body_eq_of_size_eq (underlies : store.Underlies other)
    (sameSize : other.callables.size = store.callables.size) (id : CallableId) :
    (other.callable id).body = (store.callable id).body := by
  by_cases known : store.Knows id
  · exact underlies.body_eq known
  · have unknownToo : ¬id.index < other.callables.size := by
      rw [sameSize]
      exact known
    unfold Knows at known
    simp [callable, known, unknownToo]

/-! ### What happens to both stores alike -/

theorem record (underlies : store.Underlies other) (event : Event) :
    (store.record event).Underlies (other.record event) := by
  cases underlies with
  | intro more same => exact .intro more same

theorem save (underlies : store.Underlies other) (key : String) (value : Value) :
    (store.save key value).Underlies (other.save key value) := by
  cases underlies with
  | intro more same => exact .intro more same

theorem newPromise (underlies : store.Underlies other) (work : Program) :
    (other.newPromise work).1 = (store.newPromise work).1 ∧
      (store.newPromise work).2.Underlies (other.newPromise work).2 := by
  cases underlies with
  | intro more same => exact ⟨rfl, .intro more same⟩

theorem settlePromise (underlies : store.Underlies other) (promise : PromiseId)
    (settlement : Settlement) :
    (store.settlePromise promise settlement).Underlies
      (other.settlePromise promise settlement) := by
  cases underlies with
  | intro more same => exact .intro more same

theorem deferred_eq (underlies : store.Underlies other) (promise : PromiseId) :
    other.deferred promise = store.deferred promise := by
  cases underlies with
  | intro => rfl

theorem load_eq (underlies : store.Underlies other) (key : String) :
    other.load key = store.load key := by
  cases underlies with
  | intro => rfl

theorem newCallable (underlies : store.Underlies other)
    (sameSize : other.callables.size = store.callables.size) (name : Option String)
    (body : List Value → Program) :
    (other.newCallable name body).1 = (store.newCallable name body).1 ∧
      (store.newCallable name body).2.Underlies (other.newCallable name body).2 := by
  cases underlies with
  | @intro callables more same =>
      have sameSize : callables.size = store.callables.size := sameSize
      refine ⟨by simp [Store.newCallable, sameSize], ?_⟩
      apply Underlies.intro
      · simpa [Store.newCallable] using more
      · intro index known
        simp only [Store.newCallable, Array.size_push] at known ⊢
        rw [Array.getElem?_push, Array.getElem?_push, sameSize]
        split
        · rfl
        · exact same index (by omega)

end Underlies

/-! ## Runs on both stores -/

/-- There are no fewer functions than before, and nothing is gone from the trace. -/
structure Grows (store later : Store) : Prop where
  functions : store.callables.size ≤ later.callables.size
  events : ∀ event ∈ store.trace, event ∈ later.trace

theorem grows_passage : Passage Grows where
  refl _ := ⟨Nat.le_refl _, fun _ member => member⟩
  trans first second :=
    ⟨Nat.le_trans first.functions second.functions,
      fun event member => second.events event (first.events event member)⟩
  record _ _ := ⟨Nat.le_refl _, fun _ member => Array.mem_push_of_mem _ member⟩
  newPromise _ _ := ⟨Nat.le_refl _, fun _ member => member⟩
  newCallable _ _ _ := ⟨by simp [newCallable], fun _ member => member⟩
  save _ _ _ := ⟨Nat.le_refl _, fun _ member => member⟩
  settlePromise _ _ leads :=
    ⟨leads.functions, fun event member => leads.events event (Array.mem_push_of_mem _ member)⟩

/-- No function was made, and up to the end none was called that had not been made. -/
structure MakesNone (store later : Store) : Prop where
  size : later.callables.size = store.callables.size
  calls : ∀ callee arguments, Event.called callee arguments ∈ later.trace → store.Knows callee

theorem MakesNone.split {store middle later : Store} (makesNone : store.MakesNone later)
    (first : store.Grows middle) (second : middle.Grows later) :
    store.MakesNone middle ∧ middle.MakesNone later := by
  have size := makesNone.size
  have before := first.functions
  have behind := second.functions
  refine ⟨⟨by omega, ?_⟩, ⟨by omega, ?_⟩⟩
  · intro callee arguments member
    exact makesNone.calls callee arguments (second.events _ member)
  · intro callee arguments member
    exact Nat.lt_of_lt_of_le (makesNone.calls callee arguments member) before

/-- The other store has no further functions, or else the run does not make any. -/
def Comparable (store other later : Store) : Prop :=
  other.callables.size = store.callables.size ∨ store.MakesNone later

/-- A run on the other store came to this settlement as well. -/
def Echoes (store other later : Store) (settlement : Settlement)
    (result : Option (Settlement × Store)) : Prop :=
  ∃ reached, result = some (settlement, reached) ∧ later.Underlies reached ∧
    (other.callables.size = store.callables.size →
      reached.callables.size = later.callables.size)

theorem Comparable.body_eq {store other later : Store} (comparable : Comparable store other later)
    (underlies : store.Underlies other) {callee : CallableId} {arguments : List Value}
    (called : Event.called callee arguments ∈ later.trace) :
    (other.callable callee).body = (store.callable callee).body := by
  rcases comparable with sameSize | makesNone
  · exact underlies.body_eq_of_size_eq sameSize callee
  · exact underlies.body_eq (makesNone.calls callee arguments called)

theorem Comparable.first {store other middle later : Store}
    (comparable : Comparable store other later) (first : store.Grows middle)
    (second : middle.Grows later) : Comparable store other middle :=
  comparable.imp_right fun makesNone => (makesNone.split first second).1

/-- The second part of a comparable run is comparable, if the first part led to equally many
functions on both stores. -/
theorem Comparable.second {store other middle reached later : Store}
    (comparable : Comparable store other later) (first : store.Grows middle)
    (second : middle.Grows later)
    (sameSize : other.callables.size = store.callables.size →
      reached.callables.size = middle.callables.size) : Comparable middle reached later := by
  rcases comparable with sameBefore | makesNone
  · exact Or.inl (sameSize sameBefore)
  · exact Or.inr (makesNone.split first second).2

/-- If a run is comparable, so is a run that is nested in it, and what comes behind that. -/
theorem Comparable.nested {store other middle later : Store}
    (comparable : Comparable store other later) (event : Event)
    (during : (store.record event).Grows middle) (behind : middle.Grows later) :
    Comparable (store.record event) (other.record event) middle ∧
    ∀ {reached : Store}, (other.callables.size = store.callables.size →
      reached.callables.size = middle.callables.size) → Comparable middle reached later := by
  have entered : Comparable (store.record event) (other.record event) later :=
    comparable.second (grows_passage.record store event) (grows_passage.trans during behind) id
  exact ⟨entered.first during behind, entered.second during behind⟩

end Store

namespace Program

variable {depth : Nat}

theorem grows_of_perform (program : Program) {store later : Store} {settlement : Settlement}
    (ends : program.perform (Store.run depth) store = some (settlement, later)) :
    store.Grows later :=
  program.perform_leads Store.grows_passage Store.grows_passage.run ends

/-- One level of a run echoes on the other store if the runs nested in it do. -/
theorem perform_echoes
    (nested : ∀ {program : Program} {store other later : Store} {settlement : Settlement},
      store.Underlies other → Store.run depth program store = some (settlement, later) →
      Store.Comparable store other later →
      Store.Echoes store other later settlement (Store.run depth program other))
    (program : Program) {store other later : Store} {settlement : Settlement}
    (underlies : store.Underlies other)
    (ends : program.perform (Store.run depth) store = some (settlement, later))
    (comparable : Store.Comparable store other later) :
    Store.Echoes store other later settlement (program.perform (Store.run depth) other) := by
  induction program generalizing store other with
  | finish result =>
      simp only [perform, Option.some.injEq, Prod.mk.injEq] at ends
      rcases ends with ⟨rfl, rfl⟩
      exact ⟨other, rfl, underlies, id⟩
  | write line next ih =>
      have recorded := Store.grows_passage.record store (.wrote line)
      have comparableBehind : Store.Comparable (store.record (.wrote line))
          (other.record (.wrote line)) later :=
        comparable.second recorded (next.grows_of_perform ends) id
      rcases ih (underlies.record (.wrote line)) ends comparableBehind with ⟨laterToo, echoes⟩
      exact ⟨laterToo, echoes⟩
  | call callee arguments resume ih =>
      rcases perform_call_eq_some ends with ⟨returned, reached, called, behind⟩
      have during := Store.grows_passage.run called
      have after := (resume returned).grows_of_perform behind
      rcases comparable.nested (.called callee arguments) during after with
        ⟨comparableCall, comparableBehind⟩
      rcases nested (underlies.record _) called comparableCall with
        ⟨reachedToo, calledToo, underliesReached, sameSize⟩
      rcases ih returned underliesReached behind (comparableBehind sameSize) with
        ⟨laterToo, behindToo, underliesLater, sameSizeLater⟩
      refine ⟨laterToo, ?_, underliesLater, fun same => sameSizeLater (sameSize same)⟩
      have isCalled : Event.called callee arguments ∈ later.trace :=
        after.events _ (during.events _ (by simp [Store.record]))
      simp only [perform, comparable.body_eq underlies isCalled, calledToo]
      exact behindToo
  | await promise resume ih =>
      rcases perform_await_eq_some ends with
        ⟨noted, state, behind⟩ | ⟨work, noted, reached, state, worked, behind⟩
      · rcases ih noted underlies behind comparable with ⟨laterToo, behindToo, rest⟩
        refine ⟨laterToo, ?_, rest⟩
        simp only [perform, underlies.deferred_eq, state]
        exact behindToo
      · have during := Store.grows_passage.run worked
        have settled : reached.Grows (reached.settlePromise promise noted) :=
          ⟨Nat.le_refl _, fun _ member => member⟩
        have after := (resume noted).grows_of_perform behind
        rcases comparable.nested (.started promise) during
          (Store.grows_passage.trans settled after) with ⟨comparableWork, comparableSettled⟩
        rcases nested (underlies.record _) worked comparableWork with
          ⟨reachedToo, workedToo, underliesReached, sameSize⟩
        have comparableBehind : Store.Comparable (reached.settlePromise promise noted)
            (reachedToo.settlePromise promise noted) later :=
          (comparableSettled sameSize).second settled after id
        rcases ih noted (underliesReached.settlePromise promise noted) behind comparableBehind with
          ⟨laterToo, behindToo, underliesLater, sameSizeLater⟩
        refine ⟨laterToo, ?_, underliesLater, fun same => sameSizeLater (sameSize same)⟩
        simp only [perform, underlies.deferred_eq, state, workedToo]
        exact behindToo
  | defer work resume ihWork ih =>
      rcases underlies.newPromise work with ⟨samePromise, underliesMade⟩
      have made := Store.grows_passage.newPromise store work
      have after := (resume (store.newPromise work).1).grows_of_perform ends
      have comparableBehind : Store.Comparable (store.newPromise work).2
          (other.newPromise work).2 later := comparable.second made after id
      rcases ih _ underliesMade ends comparableBehind with ⟨laterToo, behindToo, rest⟩
      refine ⟨laterToo, ?_, rest⟩
      simp only [perform, samePromise]
      exact behindToo
  | create name body resume ihBody ih =>
      have made := Store.grows_passage.newCallable store name body
      have after : (store.newCallable name body).2.Grows later :=
        (resume (store.newCallable name body).1).grows_of_perform ends
      -- the new function has the same identity on both stores only if there were equally many
      have oneMore : (store.newCallable name body).2.callables.size = store.callables.size + 1 := by
        simp [Store.newCallable]
      rcases comparable with sameSize | makesNone
      · rcases underlies.newCallable sameSize name body with ⟨sameFunction, underliesMade⟩
        have sameSizeMade : (other.newCallable name body).2.callables.size =
            (store.newCallable name body).2.callables.size := by
          simp [Store.newCallable, sameSize]
        rcases ih _ underliesMade ends (Or.inl sameSizeMade) with
          ⟨laterToo, behindToo, underliesLater, sameSizeLater⟩
        refine ⟨laterToo, ?_, underliesLater, fun _ => sameSizeLater sameSizeMade⟩
        simp only [perform, sameFunction]
        exact behindToo
      · have size := makesNone.size
        have more := after.functions
        omega
  | load key resume ih =>
      rcases ih _ underlies ends comparable with ⟨laterToo, behindToo, rest⟩
      refine ⟨laterToo, ?_, rest⟩
      simp only [perform, underlies.load_eq]
      exact behindToo
  | save key value next ih =>
      have saved := Store.grows_passage.save store key value
      have comparableBehind : Store.Comparable (store.save key value) (other.save key value)
          later := comparable.second saved (next.grows_of_perform ends) id
      rcases ih (underlies.save key value) ends comparableBehind with ⟨laterToo, echoes⟩
      exact ⟨laterToo, echoes⟩

end Program

namespace Store

variable {store other later : Store} {program : Program} {settlement : Settlement}

/-- A run comes to the same if functions are annotated differently. If the run makes no functions,
it comes to the same if functions were made besides. -/
theorem run_echoes (underlies : store.Underlies other) {depth : Nat}
    (ends : store.run depth program = some (settlement, later))
    (comparable : Comparable store other later) :
    Echoes store other later settlement (other.run depth program) := by
  induction depth generalizing program store other later settlement with
  | zero => simp [run] at ends
  | succ depth ih => exact program.perform_echoes ih underlies ends comparable

theorem run_eq_none_of_underlies (underlies : store.Underlies other)
    (sameSize : other.callables.size = store.callables.size) {depth : Nat}
    (endless : store.run depth program = none) : other.run depth program = none := by
  cases ends : other.run depth program with
  | none => rfl
  | some reached =>
      rcases run_echoes (underlies.symm sameSize) ends (Or.inl sameSize.symm) with
        ⟨later, endsToo, _⟩
      rw [endless] at endsToo
      cases endsToo

end Store

end CallContracts
