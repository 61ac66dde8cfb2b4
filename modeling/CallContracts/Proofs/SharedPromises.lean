import CallContracts.Proofs.Depth
import CallContracts.Proofs.Past
import CallContracts.Proofs.Conformance

/-!
# Promises with many holders

A promise may have many holders at once: whoever holds the promise itself, and whoever holds a view
of it, which a check against a promise type makes. A view is a promise of its own; its work awaits
the promise or the view that was checked, and checks what that resolves to.

It does not matter in which order the holders await. The first await, whoever does it, runs the work
of the original promise, and nothing ever runs it again. Every holder sees the outcome, through the
checks of the views that stand between. To make a view changes nothing for the others.
-/

namespace CallContracts

/-! ## Starts of a promise -/

/-- Whether the event is that the work of the promise started. -/
def Event.starts (promise : PromiseId) : Event → Bool
  | .started other => other = promise
  | _ => false

namespace Store

/-- How often the work of the promise has started. -/
def starts (store : Store) (promise : PromiseId) : Nat :=
  store.trace.countP (Event.starts promise)

theorem starts_record (store : Store) (event : Event) (promise : PromiseId) :
    (store.record event).starts promise =
      store.starts promise + if event.starts promise then 1 else 0 := by
  simp [starts, record, Array.countP_push]

theorem starts_record_started_self (store : Store) (promise : PromiseId) :
    (store.record (.started promise)).starts promise = store.starts promise + 1 := by
  simp [starts_record, Event.starts]

theorem starts_record_started_of_ne (store : Store) {promise other : PromiseId}
    (differ : other ≠ promise) :
    (store.record (.started other)).starts promise = store.starts promise := by
  simp [starts_record, Event.starts, differ]

theorem starts_le_record (store : Store) (event : Event) (promise : PromiseId) :
    store.starts promise ≤ (store.record event).starts promise := by
  rw [starts_record]
  exact Nat.le_add_right _ _

@[simp]
theorem starts_settlePromise (store : Store) (promise other : PromiseId)
    (settlement : Settlement) :
    (store.settlePromise other settlement).starts promise = store.starts promise :=
  rfl

theorem starts_after (store : Store) (earlier : Array Event) (promise : PromiseId) :
    (store.after earlier).starts promise =
      earlier.countP (Event.starts promise) + store.starts promise := by
  simp [starts, after, Array.countP_append]

theorem starts_le_of_run {depth : Nat} {program : Program} {store later : Store}
    {settlement : Settlement} (ends : run depth program store = some (settlement, later))
    (promise : PromiseId) : store.starts promise ≤ later.starts promise := by
  rcases trace_of_run ends with ⟨events, trace⟩
  rw [starts, starts, trace, Array.countP_append]
  exact Nat.le_add_right _ _

end Store

/-! ## Views -/

/-- A view of a promise: the promise that stands for it, the promise that was checked, against which
promised type, and at which place. -/
structure View where
  promise : PromiseId
  source : PromiseId
  type : TypeExpr
  path : IssuePath

namespace View

/-- What the promise of a view does. -/
def work (view : View) : Program :=
  view.type.schema.work (.promise view.source) view.path

/-- The work of a view awaits its source, and checks the resolution. -/
theorem run_work (view : View) (depth : Nat) (store : Store) :
    store.run depth view.work =
      match store.await depth view.source with
      | none => none
      | some (.error fault, reached) => some (.error fault, reached)
      | some (.ok value, reached) =>
        reached.run depth (view.type.schema.check value view.path) :=
  Store.run_resolve depth (.promise view.source) _ store

/-- What a holder of the view sees if its source has settled: a rejection as it is, and otherwise
what the check of the resolution came to, whose new promises stand in the store. -/
inductive Sees (view : View) (reached : Store) : (seen answer : Settlement) → Prop where
  | rejected (fault : Fault) : view.Sees reached (.error fault) (.error fault)
  | checked {value : Value} {answer : Settlement} {before behind : Store}
      (ends : ∀ depth, before.run (depth + 1) (view.type.schema.check value view.path) =
        some (answer, behind))
      (phase : ∀ failure, answer = .error (.invalid failure) → failure.phase = view.path.phase)
      (stand : ∀ promise work, before.promises.size ≤ promise.index →
        Store.MadeFor promise work behind → Store.MadeFor promise work reached) :
      view.Sees reached (.ok value) answer

theorem Sees.mono {view : View} {reached later : Store} {seen answer : Settlement}
    (sees : view.Sees reached seen answer)
    (kept : ∀ promise work, Store.MadeFor promise work reached → Store.MadeFor promise work later) :
    view.Sees later seen answer := by
  cases sees with
  | rejected fault => exact .rejected fault
  | checked ends phase stand =>
      exact .checked ends phase fun promise work new made => kept promise work (stand _ _ new made)

end View

/-- Whoever can be awaited: the promise itself, or a view of it. -/
def Holder (promise : PromiseId) (views : List View) (holder : PromiseId) : Prop :=
  holder = promise ∨ ∃ view ∈ views, view.promise = holder

theorem Holder.mono {promise holder : PromiseId} {views : List View} (view : View)
    (holds : Holder promise views holder) : Holder promise (view :: views) holder := by
  rcases holds with rfl | ⟨other, member, rfl⟩
  · exact Or.inl rfl
  · exact Or.inr ⟨other, List.mem_cons_of_mem _ member, rfl⟩

/-- Views of a promise and of its views: each is newer than its source, and apart from all
others. -/
structure Family (promise : PromiseId) (views : List View) : Prop where
  source : ∀ view ∈ views, Holder promise views view.source
  newer : ∀ view ∈ views, view.source.index < view.promise.index
  apart : ∀ view ∈ views, view.promise ≠ promise
  unique : ∀ view ∈ views, ∀ other ∈ views, other.promise = view.promise → other = view

theorem Family.nil (promise : PromiseId) : Family promise [] := by
  constructor <;> simp

theorem Family.cons {promise : PromiseId} {views : List View} (family : Family promise views)
    {view : View} (source : Holder promise views view.source)
    (new : ∀ holder, Holder promise views holder → holder.index < view.promise.index) :
    Family promise (view :: views) where
  source := List.forall_mem_cons.mpr
    ⟨source.mono view, fun other member => (family.source other member).mono view⟩
  newer := List.forall_mem_cons.mpr ⟨new _ source, family.newer⟩
  apart := by
    refine List.forall_mem_cons.mpr ⟨?_, family.apart⟩
    intro same
    have less := new promise (Or.inl rfl)
    rw [same] at less
    exact Nat.lt_irrefl _ less
  unique := by
    have differ : ∀ other ∈ views, other.promise ≠ view.promise := by
      intro other member same
      have less := new other.promise (Or.inr ⟨other, member, rfl⟩)
      rw [same] at less
      exact Nat.lt_irrefl _ less
    refine List.forall_mem_cons.mpr ⟨?_, ?_⟩
    · exact List.forall_mem_cons.mpr ⟨fun _ => rfl, fun other member same =>
        absurd same (differ other member)⟩
    · intro other member
      exact List.forall_mem_cons.mpr ⟨fun same => absurd same.symm (differ other member),
        family.unique other member⟩

namespace Store

/-! ## Nobody has awaited yet -/

/-- Neither the promise nor a view of it has been awaited. -/
structure Waits (store : Store) (promise : PromiseId) (views : List View) : Prop where
  original : ∃ work, store.deferred promise = .pending work
  views : ∀ view ∈ views, store.deferred view.promise = .pending view.work

section

variable {promise : PromiseId} {views : List View} {store : Store}

theorem Waits.holder (waits : store.Waits promise views) {holder : PromiseId}
    (holds : Holder promise views holder) : ∃ work, store.deferred holder = .pending work := by
  rcases holds with rfl | ⟨view, member, rfl⟩
  · exact waits.original
  · exact ⟨_, waits.views view member⟩

/-- The work of a view awaits its source before it does anything else. -/
theorem await_source_of_run_work {view : View} {depth : Nat} {answer : Settlement} {later : Store}
    (ends : store.run depth view.work = some (answer, later)) :
    ∃ seen middle, store.await depth view.source = some (seen, middle) ∧
      ∀ promise, middle.starts promise ≤ later.starts promise := by
  rw [View.run_work] at ends
  cases awaited : store.await depth view.source with
  | none => simp [awaited] at ends
  | some ended =>
      rcases ended with ⟨fault | value, middle⟩
      · simp only [awaited, Option.some.injEq, Prod.mk.injEq] at ends
        rcases ends with ⟨_, rfl⟩
        exact ⟨_, middle, rfl, fun _ => Nat.le_refl _⟩
      · simp only [awaited] at ends
        exact ⟨_, middle, rfl, starts_le_of_run ends⟩

/-- As long as nobody has awaited yet, whoever awaits first starts the work of the promise. -/
theorem starts_lt_of_await (family : Family promise views) {holder : PromiseId}
    (holds : Holder promise views holder) {depth : Nat} {answer : Settlement} {later : Store}
    (waits : store.Waits promise views)
    (ends : store.await depth holder = some (answer, later)) :
    store.starts promise < later.starts promise := by
  -- A view awaits its source, which is older: the induction is on the age of the holder.
  induction index : holder.index using Nat.strongRecOn
    generalizing holder depth answer store later with
  | _ index ih =>
      subst index
      cases depth with
      | zero => cases ends
      | succ depth =>
          rcases waits.holder holds with ⟨work, pending⟩
          rw [await_of_pending pending, Option.map_eq_some_iff] at ends
          rcases ends with ⟨⟨settlement, reached⟩, worked, same⟩
          cases same
          rw [starts_settlePromise]
          rcases holds with rfl | ⟨view, member, rfl⟩
          · have kept := starts_le_of_run worked holder
            rw [starts_record_started_self] at kept
            exact kept
          · rw [waits.views view member, Deferred.pending.injEq] at pending
            subst pending
            have started : (store.record (.started view.promise)).Waits promise views :=
              ⟨waits.original, waits.views⟩
            rcases await_source_of_run_work worked with ⟨seen, middle, awaited, behind⟩
            have more := ih view.source.index (family.newer view member)
              (family.source view member) started awaited rfl
            have earlier := starts_le_record store (.started view.promise) promise
            have later := behind promise
            omega

/-- While the work of the promise does not start, nobody has awaited yet. -/
theorem waits_passage (family : Family promise views) :
    Passage fun store later => store.starts promise ≤ later.starts promise ∧
      (later.starts promise = store.starts promise → store.Waits promise views →
        later.Waits promise views) where
  refl _ := ⟨Nat.le_refl _, fun _ waits => waits⟩
  trans first second := by
    refine ⟨Nat.le_trans first.1 second.1, ?_⟩
    intro same waits
    have middle := first.1
    have behind := second.1
    exact second.2 (by omega) (first.2 (by omega) waits)
  record store event := ⟨starts_le_record store event promise,
    fun _ waits => ⟨waits.original, waits.views⟩⟩
  newPromise store work := by
    refine ⟨Nat.le_refl _, ?_⟩
    rintro _ ⟨⟨original, isOriginal⟩, views⟩
    refine ⟨⟨original, ?_⟩, ?_⟩
    · rwa [deferred_newPromise_of_lt (known_of_pending isOriginal)]
    · intro view member
      rw [deferred_newPromise_of_lt (known_of_pending (views view member))]
      exact views view member
  newCallable _ _ _ := ⟨Nat.le_refl _, fun _ waits => ⟨waits.original, waits.views⟩⟩
  save _ _ _ := ⟨Nat.le_refl _, fun _ waits => ⟨waits.original, waits.views⟩⟩
  settlePromise {store later other work depth settlement} state worked leads := by
    have earlier := starts_le_record store (.started other) promise
    refine ⟨Nat.le_trans earlier leads.1, ?_⟩
    intro same waits
    rw [starts_settlePromise] at same
    have started : (store.record (.started other)).Waits promise views :=
      ⟨waits.original, waits.views⟩
    -- A holder could not have been awaited without a start of the promise.
    have noHolder : ¬Holder promise views other := by
      intro holds
      have awaited : store.await (depth + 1) other =
          some (settlement, later.settlePromise other settlement) := by
        rw [await_of_pending state, worked]
        rfl
      have more := starts_lt_of_await family holds waits awaited
      rw [starts_settlePromise] at more
      omega
    have waitsLater := leads.2 (by omega) started
    have differs : ∀ holder, Holder promise views holder → other ≠ holder := by
      rintro holder holds rfl
      exact noHolder holds
    refine ⟨?_, ?_⟩
    · rw [deferred_settlePromise_of_ne (differs promise (Or.inl rfl))]
      exact waitsLater.original
    · intro view member
      rw [deferred_settlePromise_of_ne (differs _ (Or.inr ⟨view, member, rfl⟩))]
      exact waitsLater.views view member

end

/-! ## The promise has settled -/

/-- The later store has the promises of the store as they were, and maybe more of them. -/
structure KeepsOld (store later : Store) : Prop where
  size_le : store.promises.size ≤ later.promises.size
  deferred_eq : ∀ promise : PromiseId, promise.index < store.promises.size →
    later.deferred promise = store.deferred promise

namespace KeepsOld

variable {store middle later : Store} {promise : PromiseId}

theorem refl (store : Store) : store.KeepsOld store :=
  ⟨Nat.le_refl _, fun _ _ => rfl⟩

theorem trans (first : store.KeepsOld middle) (second : middle.KeepsOld later) :
    store.KeepsOld later := by
  refine ⟨Nat.le_trans first.size_le second.size_le, ?_⟩
  intro promise old
  rw [second.deferred_eq promise (Nat.lt_of_lt_of_le old first.size_le),
    first.deferred_eq promise old]

theorem record (store : Store) (event : Event) : store.KeepsOld (store.record event) :=
  ⟨Nat.le_refl _, fun _ _ => rfl⟩

theorem deferAll (store : Store) (works : List Program) :
    store.KeepsOld (store.deferAll works) := by
  refine ⟨by simp, ?_⟩
  intro promise old
  simp [deferred, Store.deferAll, Array.getElem?_append_left old]

theorem settlement?_eq (keeps : store.KeepsOld later) (old : promise.index < store.promises.size) :
    later.settlement? promise = store.settlement? promise := by
  rw [settlement?, settlement?, keeps.deferred_eq promise old]

theorem madeFor (keeps : store.KeepsOld later) {work : Program}
    (made : MadeFor promise work store) : MadeFor promise work later where
  known := Nat.lt_of_lt_of_le made.known keeps.size_le
  state := by
    rw [keeps.deferred_eq promise made.known]
    exact made.state

end KeepsOld

/-- All promises stay made for their works when one of them settles as its work ended. -/
theorem madeFor_settlePromise {store before behind : Store} {promise : PromiseId}
    {work : Program} {depth : Nat} {settlement : Settlement}
    (pending : store.deferred promise = .pending work)
    (ran : run depth work before = some (settlement, behind)) (other : PromiseId)
    (otherWork : Program) (made : MadeFor other otherWork store) :
    MadeFor other otherWork (store.settlePromise promise settlement) := by
  refine ⟨by simpa [settlePromise] using made.known, ?_⟩
  by_cases same : promise = other
  · subst same
    rcases made.state with isPending | ⟨_, _, _, _, _, isSettled⟩
    · rw [pending, Deferred.pending.injEq] at isPending
      subst isPending
      exact Or.inr ⟨depth, before, behind, settlement, ran, deferred_settlePromise made.known _⟩
    · simp [pending] at isSettled
  · rw [deferred_settlePromise_of_ne same]
    exact made.state

/-- The promise has settled, and each view that has settled, too, shows its holders what it is to
show them. The others still wait to do so. -/
structure Serves (store : Store) (promise : PromiseId) (outcome : Settlement)
    (views : List View) : Prop where
  known : promise.index < store.promises.size
  settled : store.settlement? promise = some outcome
  made : ∀ view ∈ views, MadeFor view.promise view.work store
  sees : ∀ view ∈ views, ∀ answer, store.settlement? view.promise = some answer →
    ∃ seen, store.settlement? view.source = some seen ∧ view.Sees store seen answer

section

variable {promise : PromiseId} {outcome : Settlement} {views : List View} {store later : Store}

theorem Serves.knows (serves : store.Serves promise outcome views) {holder : PromiseId}
    (holds : Holder promise views holder) : holder.index < store.promises.size := by
  rcases holds with rfl | ⟨view, member, rfl⟩
  · exact serves.known
  · exact (serves.made view member).known

theorem Serves.keepsOld (family : Family promise views)
    (serves : store.Serves promise outcome views) (keeps : store.KeepsOld later) : later.Serves promise outcome views where
  known := Nat.lt_of_lt_of_le serves.known keeps.size_le
  settled := by rw [keeps.settlement?_eq serves.known, serves.settled]
  made view member := keeps.madeFor (serves.made view member)
  sees := by
    intro view member answer settled
    rw [keeps.settlement?_eq (serves.made view member).known] at settled
    rcases serves.sees view member answer settled with ⟨seen, source, sees⟩
    refine ⟨seen, ?_, sees.mono fun _ _ made => keeps.madeFor made⟩
    rw [keeps.settlement?_eq (serves.knows (family.source view member)), source]

theorem settlement?_settlePromise_of_ne {other : PromiseId} (differ : promise ≠ other)
    (settlement : Settlement) :
    (store.settlePromise promise settlement).settlement? other = store.settlement? other := by
  rw [settlement?, settlement?, deferred_settlePromise_of_ne differ]

theorem settlement?_settlePromise (known : promise.index < store.promises.size)
    (settlement : Settlement) :
    (store.settlePromise promise settlement).settlement? promise = some settlement := by
  rw [settlement?, deferred_settlePromise known]

/-- A view settles for what it is to show its holders. -/
theorem Serves.settle (family : Family promise views)
    (serves : store.Serves promise outcome views) {view : View} (member : view ∈ views)
    (pending : store.deferred view.promise = .pending view.work) {seen answer : Settlement}
    (source : store.settlement? view.source = some seen) (sees : view.Sees store seen answer)
    {depth : Nat} {before behind : Store}
    (ran : run depth view.work before = some (answer, behind)) :
    (store.settlePromise view.promise answer).Serves promise outcome views := by
  have unsettled : store.settlement? view.promise = none := by simp [settlement?, pending]
  have stays : ∀ {other : PromiseId} {noted : Settlement}, store.settlement? other = some noted →
      (store.settlePromise view.promise answer).settlement? other = some noted := by
    intro other noted settled
    rw [settlement?_settlePromise_of_ne, settled]
    rintro rfl
    simp [unsettled] at settled
  have stands := madeFor_settlePromise pending ran
  refine ⟨by simpa [settlePromise] using serves.known, stays serves.settled, ?_, ?_⟩
  · intro other otherMember
    exact stands _ _ (serves.made other otherMember)
  · intro other otherMember noted settled
    by_cases same : other.promise = view.promise
    · have same := family.unique view member other otherMember same
      subst same
      rw [settlement?_settlePromise (serves.made other member).known, Option.some.injEq] at settled
      subst settled
      exact ⟨seen, stays source, sees.mono stands⟩
    · rw [settlement?_settlePromise_of_ne (Ne.symm same)] at settled
      rcases serves.sees other otherMember noted settled with ⟨otherSeen, otherSource, otherSees⟩
      exact ⟨otherSeen, stays otherSource, otherSees.mono stands⟩

end

/-! ## Awaiting a holder -/

/-- A check ends at once, without anything else happening. -/
theorem exists_run_check (type : TypeExpr) (value : Value) (path : IssuePath) (store : Store) :
    ∃ answer later, store.KeepsOld later ∧ later.trace = store.trace ∧
      (∀ failure, answer = .error (.invalid failure) → failure.phase = path.phase) ∧
      ∀ depth, store.run (depth + 1) (type.schema.check value path) = some (answer, later) := by
  cases wrong : type.schema.issues value path with
  | nil =>
      refine ⟨.ok (type.schema.delivery value path store.promises.size).1, _,
        KeepsOld.deferAll store (type.schema.delivery value path store.promises.size).2, rfl,
        by simp, ?_⟩
      intro depth
      rw [run, Program.perform_check, wrong]
  | cons first others =>
      refine ⟨.error (.invalid ⟨path.phase, first, others⟩), store, KeepsOld.refl store, rfl, ?_,
        ?_⟩
      · intro failure same
        cases same
        rfl
      · intro depth
        rw [run, Program.perform_check, wrong]

/-- Once its source has settled, the work of a view ends with what the view is to show. -/
theorem exists_run_view_work (view : View) (seen : Settlement) (middle : Store) :
    ∃ answer behind, middle.KeepsOld behind ∧ behind.trace = middle.trace ∧
      view.Sees behind seen answer ∧
      ∀ (depth : Nat) (store : Store),
        store.await (depth + 1) view.source = some (seen, middle) →
        store.run (depth + 1) view.work = some (answer, behind) := by
  cases seen with
  | error fault =>
      refine ⟨.error fault, middle, KeepsOld.refl middle, rfl, .rejected fault, ?_⟩
      intro depth store awaited
      rw [View.run_work, awaited]
  | ok value =>
      rcases exists_run_check view.type value view.path middle with
        ⟨answer, behind, keeps, quiet, phase, ends⟩
      refine ⟨answer, behind, keeps, quiet, ?_, ?_⟩
      · exact .checked ends phase fun _ _ _ made => made
      · intro depth store awaited
        rw [View.run_work, awaited]
        exact ends depth

/-- The promise waits at `ready`, and its work ends there with the outcome. The work does not await
the promise itself, not even through a view: that would never end. -/
structure SettlesOnce (ready : Store) (promise : PromiseId) (outcome : Settlement) : Prop where
  ends : ∃ work depth later, ready.deferred promise = .pending work ∧
    ready.run depth work = some (outcome, later) ∧ later.starts promise = ready.starts promise

/-- Where awaiting the promise and its views leads from `ready`: nobody has awaited the promise yet,
whatever was noted in the trace, or it has run once and serves all holders. -/
inductive Underway (ready : Store) (promise : PromiseId) (outcome : Settlement)
    (views : List View) (store : Store) : Prop where
  | waiting (waits : ready.Waits promise views) (same : store.withoutPast = ready.withoutPast)
      (starts : store.starts promise = ready.starts promise)
  | serving (serves : store.Serves promise outcome views)
      (starts : store.starts promise = ready.starts promise + 1)

/-- Awaiting the holder ends where the promise has run once and serves all holders, and leaves the
views that are newer than the holder as they are. -/
structure AwaitServes (ready : Store) (promise : PromiseId) (outcome : Settlement)
    (views : List View) (store : Store) (holder : PromiseId) (answer : Settlement) (later : Store)
    (least : Nat) : Prop where
  ends : ∀ depth, least ≤ depth → store.await (depth + 1) holder = some (answer, later)
  serves : later.Serves promise outcome views
  starts : later.starts promise = ready.starts promise + 1
  newer : ∀ view ∈ views, holder.index < view.promise.index →
    later.deferred view.promise = store.deferred view.promise

theorem deferred_of_withoutPast {store other : Store}
    (same : store.withoutPast = other.withoutPast) (promise : PromiseId) :
    store.deferred promise = other.deferred promise := by
  change store.withoutPast.deferred promise = other.withoutPast.deferred promise
  rw [same]

/-- Stores that differ in their pasts alone run a program to stores that do so. -/
theorem run_of_withoutPast {store other : Store} (same : store.withoutPast = other.withoutPast)
    {depth : Nat} {program : Program} {settlement : Settlement} {later : Store}
    (ends : other.run depth program = some (settlement, later)) :
    ∃ reached, store.run depth program = some (settlement, reached) ∧
      reached.withoutPast = later.withoutPast ∧
      ∀ promise, reached.starts promise + other.starts promise =
        later.starts promise + store.starts promise := by
  rw [run_eq_endAfter] at ends
  rw [run_eq_endAfter, same]
  cases fresh : run depth program other.withoutPast with
  | none => simp [fresh, endAfter] at ends
  | some ended =>
      simp only [fresh, endAfter, Option.map_some, Option.some.injEq, Prod.mk.injEq] at ends
      rcases ends with ⟨rfl, rfl⟩
      refine ⟨_, rfl, rfl, ?_⟩
      intro promise
      rw [starts_after, starts_after]
      unfold starts
      omega

section

variable {promise : PromiseId} {outcome : Settlement} {views : List View} {ready store : Store}

theorem Underway.work_eq (underway : Underway ready promise outcome views store) {view : View}
    (member : view ∈ views) {work : Program}
    (pending : store.deferred view.promise = .pending work) : work = view.work := by
  cases underway with
  | waiting waits same starts =>
      rw [deferred_of_withoutPast same, waits.views view member, Deferred.pending.injEq] at pending
      exact pending.symm
  | serving serves starts =>
      have unsettled : store.settlement? view.promise = none := by simp [settlement?, pending]
      rw [(serves.made view member).pending unsettled, Deferred.pending.injEq] at pending
      exact pending.symm

/-- Whoever awaits the promise first runs its work, and no view settles before it has ended. -/
theorem awaitServes_of_first (family : Family promise views) (waits : ready.Waits promise views)
    (settles : ready.SettlesOnce promise outcome)
    (same : store.withoutPast = ready.withoutPast)
    (starts : store.starts promise = ready.starts promise) :
    ∃ later least, AwaitServes ready promise outcome views store promise outcome later least := by
  rcases settles.ends with ⟨work, least, ended, pending, worked, once⟩
  have startedSame : (store.record (.started promise)).withoutPast = ready.withoutPast := same
  rcases run_of_withoutPast startedSame worked with ⟨reached, ran, reachedSame, balance⟩
  have waitsEnded := ((waits_passage family).run worked).2 once waits
  have pendingNow : store.deferred promise = .pending work := by
    rw [deferred_of_withoutPast same, pending]
  have grown : (store.record (.started promise)).promises.size ≤ reached.promises.size :=
    promises_passage.run ran
  have known : promise.index < reached.promises.size :=
    Nat.lt_of_lt_of_le (known_of_pending pendingNow) grown
  have viewsPending : ∀ view ∈ views,
      (reached.settlePromise promise outcome).deferred view.promise = .pending view.work := by
    intro view member
    rw [deferred_settlePromise_of_ne (Ne.symm (family.apart view member)),
      deferred_of_withoutPast reachedSame, waitsEnded.views view member]
  refine ⟨reached.settlePromise promise outcome, least, ?_, ?_, ?_, ?_⟩
  · intro depth deep
    rw [await_of_pending pendingNow, run_deeper deep ran]
    rfl
  · refine ⟨by simpa [settlePromise] using known, settlement?_settlePromise known outcome, ?_, ?_⟩
    · intro view member
      exact madeFor_of_pending (viewsPending view member)
    · intro view member answer settled
      simp [settlement?, viewsPending view member] at settled
  · have counted := balance promise
    rw [starts_record_started_self, once, starts] at counted
    rw [starts_settlePromise]
    omega
  · intro view member _
    rw [viewsPending view member, deferred_of_withoutPast same, waits.views view member]

/-- Whoever awaits a view awaits its source, and then the view settles, too. -/
theorem awaitServes_of_source (family : Family promise views) {view : View} (member : view ∈ views)
    (pending : store.deferred view.promise = .pending view.work) {seen : Settlement}
    {middle : Store} {least : Nat}
    (source : AwaitServes ready promise outcome views (store.record (.started view.promise))
      view.source seen middle least) :
    ∃ answer later, AwaitServes ready promise outcome views store view.promise answer later
      (least + 1) := by
  rcases exists_run_view_work view seen middle with ⟨answer, behind, keeps, quiet, sees, ends⟩
  have awaited := source.ends least (Nat.le_refl _)
  have ran := ends least _ awaited
  have knownSource := source.serves.knows (family.source view member)
  have noted : behind.settlement? view.source = some seen := by
    rw [keeps.settlement?_eq knownSource, settlement?_of_await awaited]
  have keptNewer : ∀ other ∈ views, view.source.index < other.promise.index →
      behind.deferred other.promise = store.deferred other.promise := by
    intro other otherMember further
    rw [keeps.deferred_eq _ (source.serves.made other otherMember).known,
      source.newer other otherMember further]
    rfl
  have newer := family.newer view member
  have pendingBehind := (keptNewer view member newer).trans pending
  refine ⟨answer, behind.settlePromise view.promise answer, ?_, ?_, ?_, ?_⟩
  · intro depth deep
    rw [await_of_pending pending, run_deeper deep ran]
    rfl
  · exact (source.serves.keepsOld family keeps).settle family member pendingBehind noted sees ran
  · rw [starts_settlePromise, ← source.starts]
    exact congrArg _ quiet
  · intro other otherMember further
    have differ : view.promise ≠ other.promise := by
      intro same
      rw [same] at further
      exact Nat.lt_irrefl _ further
    rw [deferred_settlePromise_of_ne differ,
      keptNewer other otherMember (Nat.lt_trans newer further)]

/-- Whoever awaits, the await ends, the promise has run once by then, and it serves all holders. -/
theorem exists_awaitServes (family : Family promise views)
    (settles : ready.SettlesOnce promise outcome) {holder : PromiseId}
    (holds : Holder promise views holder)
    (underway : Underway ready promise outcome views store) :
    ∃ answer later least,
      AwaitServes ready promise outcome views store holder answer later least := by
  -- As above, the induction is on the age of the holder.
  induction index : holder.index using Nat.strongRecOn generalizing holder store with
  | _ index ih =>
      subst index
      cases state : store.deferred holder with
      | settled answer =>
          cases underway with
          | waiting waits same starts =>
              rcases waits.holder holds with ⟨work, pending⟩
              rw [deferred_of_withoutPast same, pending] at state
              cases state
          | serving serves starts =>
              exact ⟨answer, store, 0, fun depth _ => await_of_settled state depth, serves, starts,
                fun _ _ _ => rfl⟩
      | pending work =>
          rcases holds with rfl | ⟨view, member, rfl⟩
          · cases underway with
            | waiting waits same starts =>
                exact ⟨outcome, awaitServes_of_first family waits settles same starts⟩
            | serving serves starts =>
                have settled := serves.settled
                simp [settlement?, state] at settled
          · have isWork := underway.work_eq member state
            subst isWork
            have unchanged := starts_record_started_of_ne store (family.apart view member)
            have started : Underway ready promise outcome views
                (store.record (.started view.promise)) := by
              cases underway with
              | waiting waits same starts => exact .waiting waits same (unchanged.trans starts)
              | serving serves starts =>
                  exact .serving (serves.keepsOld family (.record store _)) (unchanged.trans starts)
            rcases ih view.source.index (family.newer view member) (family.source view member)
              started rfl with ⟨seen, middle, least, source⟩
            rcases awaitServes_of_source family member state source with ⟨answer, later, serves⟩
            exact ⟨answer, later, least + 1, serves⟩

end

/-! ## Making views -/

/-- The view is made by a check of its source against the type of a promise. -/
def MakesView (store : Store) (view : View) (later : Store) : Prop :=
  ∃ depth, store.run depth ((TypeExpr.promise view.type).schema.check (.promise view.source)
    view.path) = some (.ok (.promise view.promise), later)

/-- Views of the promise and of its views are made one after another. The latest one comes first. -/
inductive MakesViews (promise : PromiseId) (origin : Store) : List View → Store → Prop where
  | none : MakesViews promise origin [] origin
  | one {views : List View} {reached later : Store} {view : View}
      (earlier : MakesViews promise origin views reached)
      (source : Holder promise views view.source) (makes : reached.MakesView view later) :
      MakesViews promise origin (view :: views) later

/-- A check of a promise against the type of a promise ends with a new promise, and nothing else
happens. -/
theorem run_check_promise (type : TypeExpr) (source : PromiseId) (path : IssuePath) (depth : Nat)
    (store : Store) :
    store.run (depth + 1) ((TypeExpr.promise type).schema.check (.promise source) path) =
      some (.ok (.promise ⟨store.promises.size⟩),
        (store.newPromise (type.schema.work (.promise source) path)).2) := by
  rw [run, Program.perform_check, newPromise_eq_deferAll]
  rfl

theorem makesView_of_new {store : Store} {view : View}
    (new : view.promise = ⟨store.promises.size⟩) :
    store.MakesView view (store.newPromise view.work).2 := by
  refine ⟨1, ?_⟩
  rw [run_check_promise, new]
  rfl

theorem MakesView.eq {store later : Store} {view : View} (makes : store.MakesView view later) :
    view.promise = ⟨store.promises.size⟩ ∧ later = (store.newPromise view.work).2 := by
  rcases makes with ⟨_ | depth, ends⟩
  · cases ends
  · rw [run_check_promise] at ends
    simp only [Option.some.injEq, Prod.mk.injEq, Except.ok.injEq, Value.promise.injEq] at ends
    exact ⟨ends.1.symm, ends.2.symm⟩

namespace MakesView

variable {store later : Store} {view : View}

theorem keepsOld (makes : store.MakesView view later) : store.KeepsOld later := by
  rw [makes.eq.2, newPromise_eq_deferAll]
  exact KeepsOld.deferAll store _

theorem trace_eq (makes : store.MakesView view later) : later.trace = store.trace := by
  rw [makes.eq.2]
  rfl

theorem pending (makes : store.MakesView view later) :
    later.deferred view.promise = .pending view.work := by
  rw [makes.eq.1, makes.eq.2]
  exact deferred_newPromise store view.work

theorem family {promise : PromiseId} {views : List View} (makes : store.MakesView view later)
    (family : Family promise views) (source : Holder promise views view.source)
    (known : ∀ holder, Holder promise views holder → holder.index < store.promises.size) :
    Family promise (view :: views) := by
  apply family.cons source
  intro holder holds
  rw [makes.eq.1]
  exact known holder holds

theorem serves {promise : PromiseId} {outcome : Settlement} {views : List View}
    (makes : store.MakesView view later) (family : Family promise views)
    (serves : store.Serves promise outcome views) :
    later.Serves promise outcome (view :: views) := by
  have others := serves.keepsOld family makes.keepsOld
  refine ⟨others.known, others.settled, ?_, ?_⟩
  · exact List.forall_mem_cons.mpr ⟨madeFor_of_pending makes.pending, others.made⟩
  · refine List.forall_mem_cons.mpr ⟨?_, others.sees⟩
    intro answer settled
    simp [settlement?, makes.pending] at settled

end MakesView

/-- The views have been made, and nothing else has happened. -/
structure Prepared (origin : Store) (promise : PromiseId) (views : List View) (ready : Store) :
    Prop where
  family : Family promise views
  keeps : origin.KeepsOld ready
  trace_eq : ready.trace = origin.trace
  pending : ∀ view ∈ views, ready.deferred view.promise = .pending view.work

theorem MakesViews.prepared {origin ready : Store} {promise : PromiseId} {views : List View}
    (known : promise.index < origin.promises.size)
    (makes : MakesViews promise origin views ready) : origin.Prepared promise views ready := by
  induction makes with
  | none => exact ⟨Family.nil promise, KeepsOld.refl origin, rfl, by simp⟩
  | one earlier source makes ih =>
      rename_i views reached later view
      have old : ∀ holder, Holder promise views holder → holder.index < reached.promises.size := by
        rintro holder (rfl | ⟨other, member, rfl⟩)
        · exact Nat.lt_of_lt_of_le known ih.keeps.size_le
        · exact known_of_pending (ih.pending other member)
      refine ⟨makes.family ih.family source old, ih.keeps.trans makes.keepsOld,
        makes.trace_eq.trans ih.trace_eq, List.forall_mem_cons.mpr ⟨makes.pending, ?_⟩⟩
      intro other member
      rw [makes.keepsOld.deferred_eq _ (old _ (Or.inr ⟨other, member, rfl⟩)),
        ih.pending other member]

/-! ## Awaiting in any order -/

/-- From `ready` on, where a family of views has been made, the promise and its views are awaited in
any order, and after the first await more views are made. The answers to the awaits are kept with
the latest one first. -/
inductive Usage (ready : Store) (promise : PromiseId) (family : List View) :
    List View → List (PromiseId × Settlement) → Store → Prop where
  | start : Usage ready promise family family [] ready
  | await {views : List View} {answers : List (PromiseId × Settlement)} {reached later : Store}
      {depth : Nat} {holder : PromiseId} {answer : Settlement}
      (earlier : Usage ready promise family views answers reached)
      (holds : Holder promise views holder)
      (awaited : reached.await depth holder = some (answer, later)) :
      Usage ready promise family views ((holder, answer) :: answers) later
  | view {views : List View} {answers : List (PromiseId × Settlement)} {reached later : Store}
      {view : View} (earlier : Usage ready promise family views answers reached)
      (awaited : answers ≠ []) (source : Holder promise views view.source)
      (makes : reached.MakesView view later) :
      Usage ready promise family (view :: views) answers later

/-- What holds whenever the promise and its views are used like this. -/
structure UsageHolds (ready : Store) (promise : PromiseId) (outcome : Settlement)
    (family views : List View) (answers : List (PromiseId × Settlement)) (reached : Store) :
    Prop where
  isFamily : Family promise views
  start : answers = [] → views = family ∧ reached = ready
  serving : answers ≠ [] → reached.Serves promise outcome views ∧
    reached.starts promise = ready.starts promise + 1
  noted : ∀ holder answer, (holder, answer) ∈ answers →
    Holder promise views holder ∧ reached.settlement? holder = some answer

section

variable {ready reached later : Store} {promise : PromiseId} {outcome : Settlement}
  {family views : List View} {answers : List (PromiseId × Settlement)}

theorem UsageHolds.underway (waits : ready.Waits promise family)
    (holds : UsageHolds ready promise outcome family views answers reached) :
    Underway ready promise outcome views reached := by
  by_cases nothing : answers = []
  · rcases holds.start nothing with ⟨rfl, rfl⟩
    exact .waiting waits rfl rfl
  · exact .serving (holds.serving nothing).1 (holds.serving nothing).2

/-- One more await keeps it. -/
theorem UsageHolds.await (waits : ready.Waits promise family)
    (settles : ready.SettlesOnce promise outcome)
    (usage : UsageHolds ready promise outcome family views answers reached)
    {holder : PromiseId} (holds : Holder promise views holder) {depth : Nat}
    {answer : Settlement} (awaited : reached.await depth holder = some (answer, later)) :
    UsageHolds ready promise outcome family views ((holder, answer) :: answers) later := by
  rcases exists_awaitServes usage.isFamily settles holds (usage.underway waits) with
    ⟨other, behind, least, serves⟩
  have same := run_unique (serves.ends least (Nat.le_refl _)) awaited
  cases same
  refine ⟨usage.isFamily, by simp, fun _ => ⟨serves.serves, serves.starts⟩, ?_⟩
  intro earlier noted member
  rcases List.mem_cons.mp member with same | member
  · cases same
    exact ⟨holds, settlement?_of_await awaited⟩
  · rcases usage.noted earlier noted member with ⟨holdsEarlier, settled⟩
    have known := (usage.serving (List.ne_nil_of_mem member)).1.knows holdsEarlier
    have stays := (noted_invariant earlier noted).run ⟨known, settlement?_eq_some_iff.mp settled⟩
      awaited
    exact ⟨holdsEarlier, settlement?_eq_some_iff.mpr stays.2⟩

/-- So does one more view. -/
theorem UsageHolds.view (usage : UsageHolds ready promise outcome family views answers reached)
    (something : answers ≠ []) {view : View} (source : Holder promise views view.source)
    (makes : reached.MakesView view later) :
    UsageHolds ready promise outcome family (view :: views) answers later := by
  rcases usage.serving something with ⟨serves, starts⟩
  have known : ∀ holder, Holder promise views holder → holder.index < reached.promises.size :=
    fun _ holds => serves.knows holds
  refine ⟨makes.family usage.isFamily source known, fun nothing => absurd nothing something, ?_,
    ?_⟩
  · intro _
    refine ⟨makes.serves usage.isFamily serves, ?_⟩
    rw [← starts]
    exact congrArg _ makes.trace_eq
  · intro holder answer member
    rcases usage.noted holder answer member with ⟨holds, settled⟩
    exact ⟨holds.mono view, (makes.keepsOld.settlement?_eq (known holder holds)).trans settled⟩

/-- It holds at first, and so it holds always. -/
theorem Usage.holds (isFamily : Family promise family) (waits : ready.Waits promise family)
    (settles : ready.SettlesOnce promise outcome)
    (usage : Usage ready promise family views answers reached) :
    UsageHolds ready promise outcome family views answers reached := by
  induction usage with
  | start => exact ⟨isFamily, fun _ => ⟨rfl, rfl⟩, by simp, by simp⟩
  | await _ holds awaited ih => exact ih.await waits settles holds awaited
  | view _ something source makes ih => exact ih.view something source makes

/-- If the promise was rejected, every holder sees the rejection. -/
theorem Serves.rejected {fault : Fault} {store : Store} (family : Family promise views)
    (serves : store.Serves promise (.error fault) views) {holder : PromiseId}
    (holds : Holder promise views holder) {answer : Settlement}
    (settled : store.settlement? holder = some answer) : answer = .error fault := by
  induction index : holder.index using Nat.strongRecOn generalizing holder answer with
  | _ index ih =>
      subst index
      rcases holds with rfl | ⟨view, member, rfl⟩
      · rw [serves.settled, Option.some.injEq] at settled
        exact settled.symm
      · rcases serves.sees view member answer settled with ⟨seen, source, sees⟩
        have same := ih view.source.index (family.newer view member) (family.source view member)
          source rfl
        subst same
        cases sees
        rfl

/-- All holders share one run of the promise: its work has run once if anything has been awaited,
and not at all otherwise, every answer to an await is for good, and it is the outcome as seen
through the views that stand between. Whoever awaits next gets an answer, too, and who makes one
more view changes nothing for the others. -/
structure SharesRun (origin : Store) (promise : PromiseId) (outcome : Settlement)
    (views : List View) (answers : List (PromiseId × Settlement)) (reached : Store) : Prop where
  starts : reached.starts promise = origin.starts promise + if answers = [] then 0 else 1
  settled : answers ≠ [] → reached.settlement? promise = some outcome
  noted : ∀ holder answer, (holder, answer) ∈ answers → reached.settlement? holder = some answer
  original : ∀ answer, (promise, answer) ∈ answers → answer = outcome
  rejected : ∀ fault, outcome = .error fault →
    ∀ holder answer, (holder, answer) ∈ answers → answer = .error fault
  sees : ∀ view ∈ views, ∀ answer, reached.settlement? view.promise = some answer →
    ∃ seen, reached.settlement? view.source = some seen ∧ view.Sees reached seen answer
  ends : ∀ holder, Holder promise views holder → ∃ answer later least,
    ∀ depth, least ≤ depth → reached.await depth holder = some (answer, later)
  validates : ∀ (source : PromiseId) (type : TypeExpr) (path : IssuePath), ∃ view later,
    view.source = source ∧ view.type = type ∧ view.path = path ∧ reached.MakesView view later
  quiet : ∀ view later, reached.MakesView view later →
    reached.promises.size ≤ view.promise.index ∧
    later = { reached with promises := later.promises } ∧
    ∀ old : PromiseId, old.index < reached.promises.size →
      later.deferred old = reached.deferred old

end

end Store

/-- However the promise and views of it and of its views are awaited, in any order and as often as
one likes: the work of the promise runs once if anything is awaited at all, and every holder sees
the outcome through the views that stand between. -/
theorem holders_share_one_run {origin ready reached : Store} {promise : PromiseId}
    {outcome : Settlement} {family views : List View}
    {answers : List (PromiseId × Settlement)} (known : promise.index < origin.promises.size)
    (made : Store.MakesViews promise origin family ready)
    (settles : ready.SettlesOnce promise outcome)
    (usage : Store.Usage ready promise family views answers reached) :
    origin.SharesRun promise outcome views answers reached := by
  have prepared := made.prepared known
  have waits : ready.Waits promise family := by
    rcases settles.ends with ⟨work, _, _, pending, _, _⟩
    exact ⟨⟨work, pending⟩, prepared.pending⟩
  have holds := usage.holds prepared.family waits settles
  have serves : ∀ {holder : PromiseId} {answer : Settlement}, (holder, answer) ∈ answers →
      reached.Serves promise outcome views :=
    fun member => (holds.serving (List.ne_nil_of_mem member)).1
  have sameStarts : ready.starts promise = origin.starts promise := congrArg _ prepared.trace_eq
  refine ⟨?_, fun something => (holds.serving something).1.settled,
    fun holder answer member => (holds.noted holder answer member).2, ?_, ?_, ?_, ?_, ?_, ?_⟩
  · split
    · rename_i nothing
      rw [(holds.start nothing).2, sameStarts, Nat.add_zero]
    · rename_i something
      rw [(holds.serving something).2, sameStarts]
  · intro answer member
    have noted := (holds.noted promise answer member).2
    rw [(serves member).settled, Option.some.injEq] at noted
    exact noted.symm
  · rintro fault rfl holder answer member
    rcases holds.noted holder answer member with ⟨isHolder, noted⟩
    exact (serves member).rejected holds.isFamily isHolder noted
  · intro view member answer settled
    by_cases nothing : answers = []
    · rcases holds.start nothing with ⟨rfl, rfl⟩
      simp [Store.settlement?, waits.views view member] at settled
    · exact (holds.serving nothing).1.sees view member answer settled
  · intro holder isHolder
    rcases Store.exists_awaitServes holds.isFamily settles isHolder (holds.underway waits) with
      ⟨answer, later, least, awaits⟩
    refine ⟨answer, later, least + 1, ?_⟩
    intro depth deep
    exact Store.run_deeper deep (awaits.ends least (Nat.le_refl _))
  · intro source type path
    exact ⟨⟨⟨reached.promises.size⟩, source, type, path⟩, _, rfl, rfl, rfl,
      Store.makesView_of_new rfl⟩
  · intro view later makes
    have new : view.promise.index = reached.promises.size := congrArg _ makes.eq.1
    refine ⟨Nat.le_of_eq new.symm, ?_, makes.keepsOld.deferred_eq⟩
    rw [makes.eq.2]
    rfl

/-- A promise of a text, which writes a line when it runs, with a view as a text and a view of this
view as a truth value. The latter is awaited first. -/
theorem holders_share_one_run_of_view_of_view :
    ∃ ready reached,
      Store.MakesViews ⟨0⟩
        (Store.empty.newPromise (.write "once" (.finish (.ok (.string "a"))))).2
        [⟨⟨2⟩, ⟨1⟩, .primitive .boolean, ⟨.result, [0]⟩⟩, ⟨⟨1⟩, ⟨0⟩, .primitive .string, .result⟩]
        ready ∧
      Store.SharesRun (Store.empty.newPromise (.write "once" (.finish (.ok (.string "a"))))).2
        ⟨0⟩ (.ok (.string "a"))
        [⟨⟨2⟩, ⟨1⟩, .primitive .boolean, ⟨.result, [0]⟩⟩, ⟨⟨1⟩, ⟨0⟩, .primitive .string, .result⟩]
        [(⟨0⟩, .ok (.string "a")),
          (⟨2⟩, .error (.invalid ⟨.result, ⟨⟨.result, [0]⟩, "boolean", "\"a\""⟩, []⟩))] reached ∧
      reached.lines = ["once"] := by
  let origin := (Store.empty.newPromise (.write "once" (.finish (.ok (.string "a"))))).2
  let asText : View := ⟨⟨1⟩, ⟨0⟩, .primitive .string, .result⟩
  let asTruth : View := ⟨⟨2⟩, ⟨1⟩, .primitive .boolean, ⟨.result, [0]⟩⟩
  let ready := ((origin.newPromise asText.work).2.newPromise asTruth.work).2
  have isView : Holder ⟨0⟩ [asText] ⟨1⟩ := Or.inr ⟨asText, List.mem_cons_self, rfl⟩
  have made : Store.MakesViews ⟨0⟩ origin [asTruth, asText] ready :=
    .one (.one .none (Or.inl rfl) (Store.makesView_of_new rfl)) isView
      (Store.makesView_of_new rfl)
  have settles : ready.SettlesOnce ⟨0⟩ (.ok (.string "a")) := ⟨_, 1, _, rfl, rfl, rfl⟩
  have last : Holder ⟨0⟩ [asTruth, asText] ⟨2⟩ := Or.inr ⟨asTruth, List.mem_cons_self, rfl⟩
  have awaitedView : ready.await 4 ⟨2⟩ = some (.error (.invalid ⟨.result,
    ⟨⟨.result, [0]⟩, "boolean", "\"a\""⟩, []⟩), _) := rfl
  have usage := Store.Usage.await (.await (@Store.Usage.start ready ⟨0⟩ [asTruth, asText])
    last awaitedView) (Or.inl rfl) (Store.await_of_settled rfl 0)
  exact ⟨ready, _, made, holders_share_one_run (by decide) made settles usage, rfl⟩

end CallContracts