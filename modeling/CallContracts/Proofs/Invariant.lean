import CallContracts.Store.Run

/-!
# Invariants of runs

A program changes the store in few ways: it records events, makes functions and promises, saves
values and notes the settlements of promises. A relation between stores that each of these respects
holds between the store before a run and the store behind it: `Store.Passage.run` is the induction
over runs, which is done here once. An invariant is the case in which a property of the store before
passes on to the store behind.

As a first invariant, a promise whose settlement is fixed when it is made stays bound to that
settlement, whatever runs in between. More generally a promise stays made for its work, and what is
noted of a promise stays noted.
-/

namespace CallContracts

namespace Store

/-- A relation between a store and what it may become that each step of a program respects. A
settlement is noted at the end of the run of the promise's work, so that step may use what the run
came to and where it led. -/
structure Passage (Leads : Store → Store → Prop) : Prop where
  refl : ∀ store, Leads store store
  trans : ∀ {store middle later : Store}, Leads store middle → Leads middle later →
    Leads store later
  record : ∀ (store : Store) (event : Event), Leads store (store.record event)
  newPromise : ∀ (store : Store) (work : Program), Leads store (store.newPromise work).2
  newCallable : ∀ (store : Store) (name : Option String) (body : List Value → Program),
    Leads store (store.newCallable name body).2
  save : ∀ (store : Store) (key : String) (value : Value), Leads store (store.save key value)
  settlePromise : ∀ {store later : Store} {promise : PromiseId} {work : Program} {depth : Nat}
    {settlement : Settlement}, store.deferred promise = .pending work →
    run depth work (store.record (.started promise)) = some (settlement, later) →
    Leads (store.record (.started promise)) later →
    Leads store (later.settlePromise promise settlement)

/-- A property of stores that each step of a program keeps. A settlement is noted at the end of the
run of the promise's work, so that step may use what the run came to. -/
structure Invariant (Holds : Store → Prop) : Prop where
  record : ∀ {store : Store} (event : Event), Holds store → Holds (store.record event)
  newPromise : ∀ {store : Store} (work : Program), Holds store → Holds (store.newPromise work).2
  newCallable : ∀ {store : Store} (name : Option String) (body : List Value → Program),
    Holds store → Holds (store.newCallable name body).2
  save : ∀ {store : Store} (key : String) (value : Value),
    Holds store → Holds (store.save key value)
  settlePromise : ∀ {store later : Store} {promise : PromiseId} {work : Program} {depth : Nat}
    {settlement : Settlement}, Holds store → store.deferred promise = .pending work →
    run depth work (store.record (.started promise)) = some (settlement, later) → Holds later →
    Holds (later.settlePromise promise settlement)

/-- What each step of a program keeps passes on from a store to what it becomes. -/
theorem Invariant.passage {Holds : Store → Prop} (invariant : Invariant Holds) :
    Passage fun store later => Holds store → Holds later where
  refl _ holds := holds
  trans first second holds := second (first holds)
  record _ event holds := invariant.record event holds
  newPromise _ work holds := invariant.newPromise work holds
  newCallable _ name body holds := invariant.newCallable name body holds
  save _ key value holds := invariant.save key value holds
  settlePromise state worked leads holds :=
    invariant.settlePromise holds state worked (leads (invariant.record _ holds))

end Store

namespace Program

section Perform

variable {enter : Program → Store → Option (Settlement × Store)} {store later : Store}
  {settlement : Settlement}

/-- A call is the run of the body, and then of what is done with what it came to. -/
theorem perform_call_eq_some {callee : CallableId} {arguments : List Value}
    {resume : Settlement → Program}
    (ends : (call callee arguments resume).perform enter store = some (settlement, later)) :
    ∃ returned reached,
      enter ((store.callable callee).body arguments) (store.record (.called callee arguments)) =
        some (returned, reached) ∧
      (resume returned).perform enter reached = some (settlement, later) := by
  simp only [perform] at ends
  cases called : enter ((store.callable callee).body arguments)
      (store.record (.called callee arguments)) with
  | none => simp [called] at ends
  | some reached =>
      simp only [called] at ends
      exact ⟨reached.1, reached.2, rfl, ends⟩

/-- Awaiting a settled promise goes on with what is noted of it. Awaiting a pending one is the run
of its work, whose settlement is noted. -/
theorem perform_await_eq_some {promise : PromiseId} {resume : Settlement → Program}
    (ends : (await promise resume).perform enter store = some (settlement, later)) :
    (∃ noted, store.deferred promise = .settled noted ∧
      (resume noted).perform enter store = some (settlement, later)) ∨
    ∃ work noted reached, store.deferred promise = .pending work ∧
      enter work (store.record (.started promise)) = some (noted, reached) ∧
      (resume noted).perform enter (reached.settlePromise promise noted) =
        some (settlement, later) := by
  simp only [perform] at ends
  cases state : store.deferred promise with
  | settled noted =>
      simp only [state] at ends
      exact Or.inl ⟨noted, rfl, ends⟩
  | pending work =>
      simp only [state] at ends
      cases worked : enter work (store.record (.started promise)) with
      | none => simp [worked] at ends
      | some reached =>
          simp only [worked] at ends
          exact Or.inr ⟨work, reached.1, reached.2, rfl, worked, ends⟩

end Perform

/-- Where one level of a run leads if the steps and the runs nested in it lead there. -/
theorem perform_leads {Leads : Store → Store → Prop} (passage : Store.Passage Leads) {depth : Nat}
    (nested : ∀ {program : Program} {store later : Store} {settlement : Settlement},
      Store.run depth program store = some (settlement, later) → Leads store later)
    (program : Program) {store later : Store} {settlement : Settlement}
    (ends : program.perform (Store.run depth) store = some (settlement, later)) :
    Leads store later := by
  induction program generalizing store with
  | finish result =>
      simp only [perform, Option.some.injEq, Prod.mk.injEq] at ends
      rcases ends with ⟨_, rfl⟩
      exact passage.refl store
  | write line next ih => exact passage.trans (passage.record store _) (ih ends)
  | call callee arguments resume ih =>
      rcases perform_call_eq_some ends with ⟨returned, reached, called, behind⟩
      have leadsReached := passage.trans (passage.record store _) (nested called)
      exact passage.trans leadsReached (ih returned behind)
  | await promise resume ih =>
      rcases perform_await_eq_some ends with
        ⟨noted, _, behind⟩ | ⟨work, noted, reached, state, worked, behind⟩
      · exact ih noted behind
      · have leadsReached := passage.settlePromise state worked (nested worked)
        exact passage.trans leadsReached (ih noted behind)
  | defer work resume ihWork ih => exact passage.trans (passage.newPromise store work) (ih _ ends)
  | create name body resume ihBody ih =>
      exact passage.trans (passage.newCallable store name body) (ih _ ends)
  | load key resume ih => exact ih _ ends
  | save key value next ih => exact passage.trans (passage.save store key value) (ih ends)

end Program

namespace Store

/-- Where each step of a program leads, every run leads. -/
theorem Passage.run {Leads : Store → Store → Prop} (passage : Passage Leads) {depth : Nat}
    {program : Program} {store later : Store} {settlement : Settlement}
    (ends : Store.run depth program store = some (settlement, later)) : Leads store later := by
  induction depth generalizing program store later settlement with
  | zero => simp [Store.run] at ends
  | succ depth ih => exact program.perform_leads passage ih ends

/-- What each step of a program keeps, every run keeps. -/
theorem Invariant.run {Holds : Store → Prop} (invariant : Invariant Holds) {depth : Nat}
    {program : Program} {store later : Store} {settlement : Settlement} (holds : Holds store)
    (ends : Store.run depth program store = some (settlement, later)) : Holds later :=
  invariant.passage.run ends holds

/-- A store never loses a promise. -/
theorem promises_passage :
    Passage fun store later => store.promises.size ≤ later.promises.size where
  refl _ := Nat.le_refl _
  trans first second := Nat.le_trans first second
  record _ _ := Nat.le_refl _
  newPromise store work := by simp [newPromise]
  newCallable _ _ _ := Nat.le_refl _
  save _ _ _ := Nat.le_refl _
  settlePromise _ _ leads := by simpa [settlePromise, record] using leads

/-! ## Promises bound to a settlement -/

theorem deferred_newPromise (store : Store) (work : Program) :
    (store.newPromise work).2.deferred (store.newPromise work).1 = .pending work := by
  simp [newPromise, deferred]

theorem deferred_newPromise_of_lt {store : Store} {id : PromiseId}
    (old : id.index < store.promises.size) (work : Program) :
    (store.newPromise work).2.deferred id = store.deferred id := by
  simp [newPromise, deferred, Array.getElem?_push, Nat.ne_of_lt old]

theorem deferred_settlePromise {store : Store} {id : PromiseId}
    (known : id.index < store.promises.size) (settlement : Settlement) :
    (store.settlePromise id settlement).deferred id = .settled settlement := by
  simp [settlePromise, deferred, known]

theorem deferred_settlePromise_of_ne {store : Store} {id other : PromiseId} (differ : other ≠ id)
    (settlement : Settlement) :
    (store.settlePromise other settlement).deferred id = store.deferred id := by
  have apart : other.index ≠ id.index := by
    intro same
    apply differ
    cases other
    cases id
    simpa using same
  simp [settlePromise, deferred, Array.getElem?_setIfInBounds_ne apart]

/-- The promise is known, and it has come or will come to this settlement at once. -/
structure BoundTo (promise : PromiseId) (settlement : Settlement) (store : Store) : Prop where
  known : promise.index < store.promises.size
  state : store.deferred promise = .pending (.finish settlement) ∨
    store.deferred promise = .settled settlement

/-- A promise stays bound to its settlement. -/
theorem boundTo_invariant (promise : PromiseId) (settlement : Settlement) :
    Invariant (BoundTo promise settlement) where
  record _ bound := ⟨bound.known, bound.state⟩
  newPromise work bound := by
    refine ⟨?_, ?_⟩
    · simpa [newPromise] using Nat.lt_succ_of_lt bound.known
    · rw [deferred_newPromise_of_lt bound.known]
      exact bound.state
  newCallable _ _ bound := ⟨bound.known, bound.state⟩
  save _ _ bound := ⟨bound.known, bound.state⟩
  settlePromise {store later other work depth result} bound state worked boundLater := by
    refine ⟨by simpa [Store.settlePromise] using boundLater.known, ?_⟩
    by_cases same : other = promise
    · subst same
      rw [deferred_settlePromise boundLater.known]
      -- the only work this promise can have had is to finish with its settlement
      have isFinish : work = .finish settlement := by
        rcases bound.state with pending | settled
        · simpa [state] using pending
        · simp [state] at settled
      subst isFinish
      cases depth with
      | zero => simp [Store.run] at worked
      | succ depth =>
          simp only [Store.run, Program.perform, Option.some.injEq, Prod.mk.injEq] at worked
          rw [worked.1]
          exact Or.inr rfl
    · rw [deferred_settlePromise_of_ne same]
      exact boundLater.state

/-- Who awaits a bound promise sees its settlement. -/
theorem await_of_boundTo {promise : PromiseId} {settlement : Settlement} {store : Store}
    (bound : BoundTo promise settlement store) (depth : Nat) :
    (store.await (depth + 2) promise).map Prod.fst = some settlement := by
  rcases bound.state with pending | settled
  · simp [await, run, Program.perform, pending]
  · simp [await, run, Program.perform, settled]

/-! ## What is noted of promises -/

@[simp]
theorem promises_record (store : Store) (event : Event) :
    (store.record event).promises = store.promises :=
  rfl

theorem settlement?_eq_some_iff {store : Store} {promise : PromiseId} {settlement : Settlement} :
    store.settlement? promise = some settlement ↔
      store.deferred promise = .settled settlement := by
  unfold settlement?
  cases store.deferred promise <;> simp

theorem known_of_pending {store : Store} {promise : PromiseId} {work : Program}
    (pending : store.deferred promise = .pending work) :
    promise.index < store.promises.size := by
  apply Decidable.by_contra
  intro unknown
  simp [deferred, unknown] at pending

theorem known_of_rejected {store : Store} {promise : PromiseId} {fault : Fault}
    (rejected : store.deferred promise = .settled (.error fault)) :
    promise.index < store.promises.size := by
  apply Decidable.by_contra
  intro unknown
  simp [deferred, unknown] at rejected

/-- Who awaits a pending promise runs its work, and what this came to is noted. -/
theorem await_of_pending {store : Store} {promise : PromiseId} {work : Program}
    (pending : store.deferred promise = .pending work) (depth : Nat) :
    store.await (depth + 1) promise =
      (run depth work (store.record (.started promise))).map
        fun (settlement, later) => (settlement, later.settlePromise promise settlement) := by
  simp only [await, run, Program.perform, pending]
  cases run depth work (store.record (.started promise)) <;> rfl

/-- Who awaits a settled promise sees the settlement, and nothing happens. -/
theorem await_of_settled {store : Store} {promise : PromiseId} {settlement : Settlement}
    (settled : store.deferred promise = .settled settlement) (depth : Nat) :
    store.await (depth + 1) promise = some (settlement, store) := by
  simp only [await, run, Program.perform, settled]

/-- The promise is known, and it is to do this work when somebody awaits it, or it has settled as
this work ended once. -/
structure MadeFor (promise : PromiseId) (work : Program) (store : Store) : Prop where
  known : promise.index < store.promises.size
  state : store.deferred promise = .pending work ∨
    ∃ depth before behind settlement, run depth work before = some (settlement, behind) ∧
      store.deferred promise = .settled settlement

theorem madeFor_of_pending {promise : PromiseId} {work : Program} {store : Store}
    (pending : store.deferred promise = .pending work) : MadeFor promise work store :=
  ⟨known_of_pending pending, Or.inl pending⟩

theorem madeFor_newPromise (store : Store) (work : Program) :
    MadeFor (store.newPromise work).1 work (store.newPromise work).2 :=
  madeFor_of_pending (deferred_newPromise store work)

/-- A promise stays made for its work. -/
theorem madeFor_invariant (promise : PromiseId) (work : Program) :
    Invariant (MadeFor promise work) where
  record _ made := ⟨made.known, made.state⟩
  newPromise other made := by
    refine ⟨?_, ?_⟩
    · simpa [newPromise] using Nat.lt_succ_of_lt made.known
    · rw [deferred_newPromise_of_lt made.known]
      exact made.state
  newCallable _ _ made := ⟨made.known, made.state⟩
  save _ _ made := ⟨made.known, made.state⟩
  settlePromise {store later other otherWork depth settlement} made state worked madeLater := by
    refine ⟨by simpa [settlePromise] using madeLater.known, ?_⟩
    by_cases same : other = promise
    · subst same
      rw [deferred_settlePromise madeLater.known]
      rcases made.state with pending | ⟨_, _, _, settled, _, isSettled⟩
      · rw [state, Deferred.pending.injEq] at pending
        subst pending
        exact Or.inr ⟨depth, _, later, settlement, worked, rfl⟩
      · simp [state] at isSettled
    · rw [deferred_settlePromise_of_ne same]
      exact madeLater.state

/-- A promise that has not settled yet is to do the work it was made for. -/
theorem MadeFor.pending {promise : PromiseId} {work : Program} {store : Store}
    (made : MadeFor promise work store) (unsettled : store.settlement? promise = none) :
    store.deferred promise = .pending work := by
  rcases made.state with pending | ⟨_, _, _, settlement, _, settled⟩
  · exact pending
  · simp [settlement?, settled] at unsettled

/-- What a promise comes to is what its work came to. -/
theorem MadeFor.run_of_await {promise : PromiseId} {work : Program} {store later : Store}
    (made : MadeFor promise work store) {depth : Nat} {settlement : Settlement}
    (awaited : store.await depth promise = some (settlement, later)) :
    ∃ depth before behind, run depth work before = some (settlement, behind) := by
  cases depth with
  | zero => cases awaited
  | succ depth =>
      rcases made.state with pending | ⟨depth, before, behind, noted, ran, settled⟩
      · rw [await_of_pending pending, Option.map_eq_some_iff] at awaited
        rcases awaited with ⟨ended, ran, same⟩
        cases same
        exact ⟨depth, _, ended.2, ran⟩
      · rw [await_of_settled settled] at awaited
        cases awaited
        exact ⟨depth, before, behind, ran⟩

/-- A settlement that is noted stays noted. -/
theorem noted_invariant (promise : PromiseId) (settlement : Settlement) :
    Invariant fun store => promise.index < store.promises.size ∧
      store.deferred promise = .settled settlement where
  record _ noted := noted
  newPromise work noted := by
    refine ⟨?_, ?_⟩
    · simpa [newPromise] using Nat.lt_succ_of_lt noted.1
    · rw [deferred_newPromise_of_lt noted.1]
      exact noted.2
  newCallable _ _ noted := noted
  save _ _ noted := noted
  settlePromise {store later other work depth result} noted state _ notedLater := by
    have differ : other ≠ promise := by
      rintro rfl
      simp [noted.2] at state
    refine ⟨by simpa [settlePromise] using notedLater.1, ?_⟩
    rw [deferred_settlePromise_of_ne differ]
    exact notedLater.2

/-- A rejection that is noted stays noted. -/
theorem rejection_invariant (promise : PromiseId) (fault : Fault) :
    Invariant fun store => store.settlement? promise = some (.error fault) := by
  have noted := noted_invariant promise (.error fault)
  have rejected : (fun store : Store => store.settlement? promise = some (.error fault)) =
      fun store => promise.index < store.promises.size ∧
        store.deferred promise = .settled (.error fault) := by
    funext store
    rw [settlement?_eq_some_iff]
    exact propext ⟨fun isSo => ⟨known_of_rejected isSo, isSo⟩, And.right⟩
  rw [rejected]
  exact noted

/-- Behind an await the settlement is noted. -/
theorem settlement?_of_await {depth : Nat} {promise : PromiseId} {store later : Store}
    {settlement : Settlement} (ends : store.await depth promise = some (settlement, later)) :
    later.settlement? promise = some settlement := by
  cases depth with
  | zero => simp [await, run] at ends
  | succ depth =>
      rcases Program.perform_await_eq_some ends with
        ⟨noted, state, finished⟩ | ⟨work, noted, reached, state, worked, finished⟩
      all_goals
        simp only [Program.perform, Option.some.injEq, Prod.mk.injEq] at finished
        rcases finished with ⟨rfl, rfl⟩
      · simp [settlement?, state]
      · have started : (store.record (.started promise)).deferred promise = .pending work := state
        have made := madeFor_of_pending started
        have madeReached := (madeFor_invariant promise work).run made worked
        simp [settlement?, deferred_settlePromise madeReached.known]

end Store

end CallContracts
