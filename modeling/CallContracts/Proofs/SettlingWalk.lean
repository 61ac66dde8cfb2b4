import CallContracts.Proofs.Depth
import CallContracts.Proofs.Settling

/-!
# Settling as a walk

Settling is said here once more, without results that are built up on the way: a walk takes values
from a list, looks at the first one, and puts what stands behind it in front of the others. This is
`Store.Walk`. It notes which promises it meets and what they settled with, in order. What settling
comes to is read off these notes: the fault that stopped the walk, or else the issues of all
rejections that were met, or else the values with resolutions in the places of promises.

Settling ends exactly if the walk does. From a result to the walk, the proof follows the recursion
of `Value.settle`; from the walk to a result, it is an induction over the walk, for which results
must not depend on the depth that is allowed.
-/

namespace CallContracts

/-! ## The walk -/

/-- A promise that a walk met, and what it settled with. -/
structure Meeting where
  promise : PromiseId
  settlement : Settlement

namespace Meeting

/-- The failure that the promise was rejected with, if that was a validation failure. -/
def rejection? (meeting : Meeting) : Option ValidationFailure :=
  match meeting.settlement with
  | .error (.invalid failure) => some failure
  | _ => none

/-- The validation failures among what was met, in order. -/
def rejections (met : List Meeting) : List ValidationFailure :=
  met.filterMap rejection?

/-- The walk goes on behind the promise: it resolved, or was rejected with a validation failure. -/
def IsPassed (meeting : Meeting) : Prop :=
  ∀ fault, meeting.settlement = .error fault → ∃ failure, fault = .invalid failure

theorem rejections_append (met behind : List Meeting) :
    rejections (met ++ behind) = rejections met ++ rejections behind :=
  List.filterMap_append

end Meeting

namespace Store

/-- The walk over values from left to right, into arrays and into the resolutions of promises before
it goes on behind them. It has met these promises when it ends, at the end of the values or with a
fault. -/
inductive Walk : Store → List Value → List Meeting → Option Fault → Store → Prop where
  | done (store : Store) : Walk store [] [] none store
  | plain {store later : Store} {value : Value} {others : List Value} {met : List Meeting}
      {ending : Option Fault} (noArray : ∀ items, value ≠ .array items)
      (noPromise : ∀ promise, value ≠ .promise promise)
      (behind : Walk store others met ending later) :
      Walk store (value :: others) met ending later
  | array {store later : Store} {items others : List Value} {met : List Meeting}
      {ending : Option Fault} (within : Walk store (items ++ others) met ending later) :
      Walk store (.array items :: others) met ending later
  | resolved {store middle later : Store} {depth : Nat} {promise : PromiseId} {resolution : Value}
      {others : List Value} {met : List Meeting} {ending : Option Fault}
      (awaited : store.await depth promise = some (.ok resolution, middle))
      (behind : Walk middle (resolution :: others) met ending later) :
      Walk store (.promise promise :: others) (⟨promise, .ok resolution⟩ :: met) ending later
  | rejected {store middle later : Store} {depth : Nat} {promise : PromiseId}
      {failure : ValidationFailure} {others : List Value} {met : List Meeting}
      {ending : Option Fault}
      (awaited : store.await depth promise = some (.error (.invalid failure), middle))
      (behind : Walk middle others met ending later) :
      Walk store (.promise promise :: others) (⟨promise, .error (.invalid failure)⟩ :: met) ending
        later
  | stopped {store later : Store} {depth : Nat} {promise : PromiseId} {fault : Fault}
      (others : List Value) (awaited : store.await depth promise = some (.error fault, later))
      (noFailure : ∀ failure, fault ≠ .invalid failure) :
      Walk store (.promise promise :: others) [⟨promise, .error fault⟩] (some fault) later

/-- Awaiting these promises one after the other leads from one store to the other, and they settle
as it is noted. Nothing else happens. -/
inductive Drives : Store → List Meeting → Store → Prop where
  | nil (store : Store) : Drives store [] store
  | cons {store middle later : Store} {depth : Nat} {meeting : Meeting} {met : List Meeting}
      (awaited : store.await depth meeting.promise = some (meeting.settlement, middle))
      (behind : Drives middle met later) : Drives store (meeting :: met) later

namespace Walk

variable {store later : Store} {values : List Value} {met : List Meeting} {ending : Option Fault}

/-- There is one walk at most. -/
theorem unique (walk : store.Walk values met ending later) {otherMet : List Meeting}
    {otherEnding : Option Fault} {otherLater : Store}
    (other : store.Walk values otherMet otherEnding otherLater) :
    met = otherMet ∧ ending = otherEnding ∧ later = otherLater := by
  induction walk generalizing otherMet otherEnding otherLater with
  | done store =>
      cases other with
      | done => exact ⟨rfl, rfl, rfl⟩
  | plain noArray noPromise _ ih =>
      cases other with
      | plain _ _ behind => exact ih behind
      | array _ => exact absurd rfl (noArray _)
      | resolved _ _ => exact absurd rfl (noPromise _)
      | rejected _ _ => exact absurd rfl (noPromise _)
      | stopped _ _ _ => exact absurd rfl (noPromise _)
  | array _ ih =>
      cases other with
      | plain noArray _ _ => exact absurd rfl (noArray _)
      | array within => exact ih within
  | resolved awaited _ ih =>
      cases other with
      | plain _ noPromise _ => exact absurd rfl (noPromise _)
      | resolved again behind =>
          cases run_unique awaited again
          rcases ih behind with ⟨rfl, rfl, rfl⟩
          exact ⟨rfl, rfl, rfl⟩
      | rejected again _ => cases run_unique awaited again
      | stopped _ again _ => cases run_unique awaited again
  | rejected awaited _ ih =>
      cases other with
      | plain _ noPromise _ => exact absurd rfl (noPromise _)
      | resolved again _ => cases run_unique awaited again
      | rejected again behind =>
          cases run_unique awaited again
          rcases ih behind with ⟨rfl, rfl, rfl⟩
          exact ⟨rfl, rfl, rfl⟩
      | stopped _ again noFailure =>
          cases run_unique awaited again
          exact absurd rfl (noFailure _)
  | stopped _ awaited noFailure =>
      cases other with
      | plain _ noPromise _ => exact absurd rfl (noPromise _)
      | resolved again _ => cases run_unique awaited again
      | rejected again _ =>
          cases run_unique awaited again
          exact absurd rfl (noFailure _)
      | stopped _ again _ =>
          cases run_unique awaited again
          exact ⟨rfl, rfl, rfl⟩

/-- The walk drives the promises that it meets and does nothing else. -/
theorem drives (walk : store.Walk values met ending later) : store.Drives met later := by
  induction walk with
  | done store => exact .nil store
  | plain _ _ _ ih => exact ih
  | array _ ih => exact ih
  | resolved awaited _ ih => exact .cons awaited ih
  | rejected awaited _ ih => exact .cons awaited ih
  | stopped _ awaited _ => exact .cons awaited (.nil _)

/-- The walk goes on behind all promises that it meets, but for the one whose fault stops it. -/
theorem passes (walk : store.Walk values met ending later) :
    (ending = none → ∀ meeting ∈ met, meeting.IsPassed) ∧
    ∀ fault, ending = some fault → (∀ failure, fault ≠ .invalid failure) ∧
      ∃ before promise, met = before ++ [⟨promise, .error fault⟩] ∧
        ∀ meeting ∈ before, meeting.IsPassed := by
  induction walk with
  | done store => simp
  | plain _ _ _ ih => exact ih
  | array _ ih => exact ih
  | @resolved _ _ _ _ promise resolution _ _ _ _ _ ih =>
      have passed : Meeting.IsPassed ⟨promise, .ok resolution⟩ := by simp [Meeting.IsPassed]
      refine ⟨fun ended => List.forall_mem_cons.mpr ⟨passed, ih.1 ended⟩, ?_⟩
      intro fault stops
      rcases ih.2 fault stops with ⟨noFailure, before, last, rfl, others⟩
      exact ⟨noFailure, _ :: before, last, rfl, List.forall_mem_cons.mpr ⟨passed, others⟩⟩
  | @rejected _ _ _ _ promise failure _ _ _ _ _ ih =>
      have passed : Meeting.IsPassed ⟨promise, .error (.invalid failure)⟩ := by
        rintro fault same
        exact ⟨failure, (Except.error.inj same).symm⟩
      refine ⟨fun ended => List.forall_mem_cons.mpr ⟨passed, ih.1 ended⟩, ?_⟩
      intro fault stops
      rcases ih.2 fault stops with ⟨noFailure, before, last, rfl, others⟩
      exact ⟨noFailure, _ :: before, last, rfl, List.forall_mem_cons.mpr ⟨passed, others⟩⟩
  | @stopped _ _ _ promise fault _ _ noFailure =>
      refine ⟨by simp, ?_⟩
      intro other stops
      cases stops
      exact ⟨noFailure, [], promise, rfl, by simp⟩

end Walk

end Store

/-! ## Resolutions in the places of promises -/

/-- The results are the values, in which each promise has been replaced by its resolution, and each
promise in that by its own, as they were met. -/
inductive Value.ResolveTo (met : List Meeting) : List Value → List Value → Prop where
  | nil : Value.ResolveTo met [] []
  | plain {value : Value} {others results : List Value}
      (noArray : ∀ items, value ≠ .array items) (noPromise : ∀ promise, value ≠ .promise promise)
      (behind : Value.ResolveTo met others results) :
      Value.ResolveTo met (value :: others) (value :: results)
  | array {items parts others results : List Value} (within : Value.ResolveTo met items parts)
      (behind : Value.ResolveTo met others results) :
      Value.ResolveTo met (.array items :: others) (.array parts :: results)
  | promise {promise : PromiseId} {resolution result : Value} {others results : List Value}
      (resolved : ⟨promise, .ok resolution⟩ ∈ met)
      (behind : Value.ResolveTo met (resolution :: others) (result :: results)) :
      Value.ResolveTo met (.promise promise :: others) (result :: results)

namespace Value.ResolveTo

variable {met : List Meeting} {values results : List Value}

theorem mono {more : List Meeting} (resolves : ResolveTo met values results)
    (subset : met ⊆ more) : ResolveTo more values results := by
  induction resolves with
  | nil => exact .nil
  | plain noArray noPromise _ ih => exact .plain noArray noPromise ih
  | array _ _ ihWithin ih => exact .array ihWithin ih
  | promise resolved _ ih => exact .promise (subset resolved) ih

/-- A value in front of others resolves by itself. -/
theorem cons {value result : Value} {others behind : List Value}
    (first : ResolveTo met [value] [result]) (second : ResolveTo met others behind) :
    ResolveTo met (value :: others) (result :: behind) := by
  generalize single : [value] = front at first
  generalize singleResult : [result] = frontResults at first
  induction first generalizing value result with
  | nil => cases single
  | plain noArray noPromise rest _ =>
      cases single
      cases singleResult
      exact .plain noArray noPromise second
  | array within _ _ _ =>
      cases single
      cases singleResult
      exact .array within second
  | promise resolved _ ih =>
      cases single
      cases singleResult
      exact .promise resolved (ih rfl rfl)

theorem length_eq (resolves : ResolveTo met values results) : results.length = values.length := by
  induction resolves with
  | nil => rfl
  | plain _ _ _ ih => simp [ih]
  | array _ _ _ ih => simp [ih]
  | promise _ _ ih => simpa using ih

theorem arePromiseFree (resolves : ResolveTo met values results) :
    Value.arePromiseFree results := by
  induction resolves with
  | nil => rfl
  | @plain value _ _ noArray noPromise _ ih =>
      have free : value.isPromiseFree = true := by
        cases value with
        | promise promise => exact absurd rfl (noPromise promise)
        | array items => exact absurd rfl (noArray items)
        | _ => rfl
      simp [Value.arePromiseFree, free, ih]
  | array _ _ ihWithin ih => simp [Value.arePromiseFree, Value.isPromiseFree, ihWithin, ih]
  | promise _ _ ih => exact ih

theorem eq_of_arePromiseFree (resolves : ResolveTo met values results)
    (free : Value.arePromiseFree values) : results = values := by
  induction resolves with
  | nil => rfl
  | plain _ _ _ ih =>
      simp only [Value.arePromiseFree, Bool.and_eq_true] at free
      rw [ih free.2]
  | array _ _ ihWithin ih =>
      simp only [Value.arePromiseFree, Value.isPromiseFree, Bool.and_eq_true] at free
      rw [ihWithin free.1, ih free.2]
  | promise _ _ _ => simp [Value.arePromiseFree, Value.isPromiseFree] at free

/-- Values without promises stay as they are, wherever they stand. -/
theorem getElem?_of_isPromiseFree (resolves : ResolveTo met values results) {position : Nat}
    {value : Value} (found : values[position]? = some value) (free : value.isPromiseFree) :
    results[position]? = some value := by
  induction resolves generalizing position with
  | nil => simp at found
  | plain _ _ _ ih =>
      cases position with
      | zero => exact found
      | succ position => exact ih found
  | array within _ _ ih =>
      cases position with
      | zero =>
          simp only [List.getElem?_cons_zero, Option.some.injEq] at found ⊢
          subst found
          simp only [Value.isPromiseFree] at free
          rw [within.eq_of_arePromiseFree free]
      | succ position => exact ih found
  | promise _ _ ih =>
      cases position with
      | zero =>
          simp only [List.getElem?_cons_zero, Option.some.injEq] at found
          subst found
          simp [Value.isPromiseFree] at free
      | succ position =>
          exact @ih (position + 1) found

end Value.ResolveTo

/-! ## From settling to the walk -/

/-- What settling values comes to, as far as the walk ends behind them: the failures met, if there
are any, as one failure with their issues, or the values with resolutions in place. -/
def Settled.Reports (met : List Meeting) (values : List Value) : Settled (List Value) → Prop
  | .ok results => Meeting.rejections met = [] ∧ Value.ResolveTo met values results
  | .error failure => failure.issues = (Meeting.rejections met).flatMap ValidationFailure.issues

theorem Settled.Reports.cons {met behind : List Meeting} {value : Value} {others : List Value}
    {first : Settled Value} {settled : Settled (List Value)}
    (reportsFirst : Settled.Reports met [value] (first.map fun result => [result]))
    (reports : Settled.Reports behind others settled) :
    (first.cons settled).Reports (met ++ behind) (value :: others) := by
  rcases first with left | result <;> rcases settled with right | results
  · have leftIssues : left.issues = _ := reportsFirst
    have rightIssues : right.issues = _ := reports
    simp only [Settled.cons, Settled.Reports, Meeting.rejections_append, List.flatMap_append,
      ← leftIssues, ← rightIssues]
    simp [ValidationFailure.append, ValidationFailure.issues]
  · have leftIssues : left.issues = _ := reportsFirst
    simp [Settled.cons, Settled.Reports, Meeting.rejections_append, reports.1, leftIssues]
  · simpa [Settled.cons, Settled.Reports, Meeting.rejections_append, reportsFirst.1] using reports
  · refine ⟨by rw [Meeting.rejections_append, reportsFirst.1, reports.1, List.append_nil], ?_⟩
    have resolvesFirst := reportsFirst.2.mono (List.subset_append_left met behind)
    exact resolvesFirst.cons (reports.2.mono (List.subset_append_right met behind))

theorem Settled.Reports.array {met : List Meeting} {items : List Value}
    {settled : Settled (List Value)} (reports : settled.Reports met items) :
    Settled.Reports met [.array items] ((settled.map Value.array).map fun result => [result]) := by
  cases settled with
  | error failure => exact reports
  | ok results => exact ⟨reports.1, .array reports.2 .nil⟩

namespace Store

/-- The walk passes these values, whatever stands behind them. -/
def WalksThrough (store : Store) (values : List Value) (met : List Meeting) (later : Store) :
    Prop :=
  ∀ {others : List Value} {behind : List Meeting} {ending : Option Fault} {last : Store},
    later.Walk others behind ending last → store.Walk (values ++ others) (met ++ behind) ending last

/-- The walk is stopped within these values, whatever stands behind them. -/
def WalksInto (store : Store) (values : List Value) (met : List Meeting) (fault : Fault)
    (later : Store) : Prop :=
  ∀ others : List Value, store.Walk (values ++ others) met (some fault) later

/-- The walk over the values ends as settling them does, whatever stands behind them. -/
inductive Walked (store : Store) (values : List Value) :
    Except Fault (Settled (List Value)) → Store → Prop where
  | through {met : List Meeting} {settled : Settled (List Value)} {later : Store}
      (walks : store.WalksThrough values met later) (reports : settled.Reports met values) :
      Walked store values (.ok settled) later
  | into {met : List Meeting} {fault : Fault} {later : Store}
      (walks : store.WalksInto values met fault later) : Walked store values (.error fault) later

/-- The same for a single value. -/
def WalkedOne (store : Store) (value : Value) (result : Except Fault (Settled Value))
    (later : Store) : Prop :=
  store.Walked [value] (result.map fun settled => settled.map fun result => [result]) later

theorem Walked.array {store later : Store} {items : List Value}
    {result : Except Fault (Settled (List Value))} (walked : store.Walked items result later) :
    store.WalkedOne (.array items) (result.map fun settled => settled.map Value.array) later := by
  cases walked with
  | through walks reports => exact .through (fun walk => .array (walks walk)) reports.array
  | into walks => exact .into fun others => .array (walks others)

theorem WalkedOne.plain {value : Value} (noArray : ∀ items, value ≠ .array items)
    (noPromise : ∀ promise, value ≠ .promise promise) (store : Store) :
    store.WalkedOne value (.ok (.ok value)) store := by
  have walks : store.WalksThrough [value] [] store := fun walk => .plain noArray noPromise walk
  exact .through walks ⟨rfl, .plain noArray noPromise .nil⟩

end Store

section Recursion

variable {follow : PromiseId → Store → Option (Except Fault (Settled Value) × Store)}

mutual

theorem Value.walkedOne_of_settle
    (followed : ∀ {promise store result later}, follow promise store = some (result, later) →
      store.WalkedOne (.promise promise) result later)
    (value : Value) {store later : Store} {result : Except Fault (Settled Value)}
    (ends : value.settle follow store = some (result, later)) :
    store.WalkedOne value result later := by
  cases value with
  | promise promise =>
      simp only [Value.settle] at ends
      exact followed ends
  | array items =>
      rcases Value.settle_array_eq_some ends with ⟨fault, walked, rfl⟩ | ⟨settled, walked, rfl⟩
      · exact (Value.walked_of_settleList followed items walked).array
      · exact (Value.walked_of_settleList followed items walked).array
  | _ =>
      simp only [Value.settle, Option.some.injEq, Prod.mk.injEq] at ends
      rcases ends with ⟨rfl, rfl⟩
      exact Store.WalkedOne.plain (by simp) (by simp) store
termination_by structural value

theorem Value.walked_of_settleList
    (followed : ∀ {promise store result later}, follow promise store = some (result, later) →
      store.WalkedOne (.promise promise) result later)
    (items : List Value) {store later : Store} {result : Except Fault (Settled (List Value))}
    (ends : Value.settleList follow items store = some (result, later)) :
    store.Walked items result later := by
  cases items with
  | nil =>
      simp only [Value.settleList, Option.some.injEq, Prod.mk.injEq] at ends
      rcases ends with ⟨rfl, rfl⟩
      have walks : store.WalksThrough [] [] store := id
      exact .through walks ⟨rfl, .nil⟩
  | cons item items =>
      rcases Value.settleList_cons_eq_some ends with
        ⟨fault, walked, rfl⟩ | ⟨first, middle, walkedFirst, others⟩
      · cases Value.walkedOne_of_settle followed item walked with
        | into walks => exact .into fun others => walks (items ++ others)
      · have one : store.WalkedOne item (.ok first) middle :=
          Value.walkedOne_of_settle followed item walkedFirst
        cases one with
        | through walksFirst reportsFirst =>
            rcases others with ⟨fault, walked, rfl⟩ | ⟨settled, walked, rfl⟩
            · cases Value.walked_of_settleList followed items walked with
              | into walks => exact .into fun others => walksFirst (walks others)
            · cases Value.walked_of_settleList followed items walked with
              | through walks reports =>
                  refine .through ?_ (reportsFirst.cons reports)
                  intro others behind ending last walk
                  rw [List.append_assoc]
                  exact walksFirst (walks walk)
termination_by structural items

end

end Recursion

namespace Store

theorem walkedOne_of_follow {depth : Nat} {promise : PromiseId} {store later : Store}
    {result : Except Fault (Settled Value)}
    (ends : follow depth promise store = some (result, later)) :
    store.WalkedOne (.promise promise) result later := by
  induction depth generalizing promise store later result with
  | zero => simp [follow] at ends
  | succ depth ih =>
      rcases follow_eq_some ends with
        ⟨resolution, middle, awaited, walked⟩ | ⟨failure, awaited, rfl⟩ |
          ⟨fault, awaited, other, rfl⟩
      · have one : middle.WalkedOne resolution result later :=
          resolution.walkedOne_of_settle ih walked
        rcases result with fault | settled
        · cases one with
          | into walks => exact .into fun others => .resolved awaited (walks others)
        · cases one with
          | @through met _ _ walks reports =>
              have walksOn : store.WalksThrough [.promise promise]
                  (⟨promise, .ok resolution⟩ :: met) later :=
                fun walk => .resolved awaited (walks walk)
              refine .through walksOn ?_
              cases settled with
              | error failure => exact reports
              | ok value =>
                  refine ⟨reports.1, .promise List.mem_cons_self ?_⟩
                  exact reports.2.mono (List.subset_cons_self _ _)
      · have walks : store.WalksThrough [.promise promise]
            [⟨promise, .error (.invalid failure)⟩] later :=
          fun walk => .rejected awaited walk
        refine .through walks ?_
        simp [Settled.Reports, Except.map, Meeting.rejections, Meeting.rejection?]
      · exact .into fun others => .stopped others awaited other

end Store

/-! ## From the walk to settling -/

section Recursion

variable {follow : PromiseId → Store → Option (Except Fault (Settled Value) × Store)}
  {store middle later : Store}

theorem Value.settle_array_of_fault {items : List Value} {fault : Fault}
    (within : Value.settleList follow items store = some (.error fault, later)) :
    (Value.array items).settle follow store = some (.error fault, later) := by
  simp only [Value.settle, within]

theorem Value.settle_array_of_settled {items : List Value} {settled : Settled (List Value)}
    (within : Value.settleList follow items store = some (.ok settled, later)) :
    (Value.array items).settle follow store = some (.ok (settled.map .array), later) := by
  simp only [Value.settle, within]

theorem Value.settleList_cons_of_fault {item : Value} {fault : Fault}
    (first : item.settle follow store = some (.error fault, later)) (items : List Value) :
    Value.settleList follow (item :: items) store = some (.error fault, later) := by
  simp only [Value.settleList, first]

theorem Value.settleList_cons_of_settled {item : Value} {settled : Settled Value}
    {items : List Value} {result : Except Fault (Settled (List Value))}
    (first : item.settle follow store = some (.ok settled, middle))
    (others : Value.settleList follow items middle = some (result, later)) :
    ∃ result, Value.settleList follow (item :: items) store = some (result, later) := by
  simp only [Value.settleList, first, others]
  cases result <;> exact ⟨_, rfl⟩

/-- Settling values and others behind them is settling the values, and then the others unless a
fault ends it before. -/
theorem Value.settleList_append_eq_some {items others : List Value}
    {result : Except Fault (Settled (List Value))}
    (ends : Value.settleList follow (items ++ others) store = some (result, later)) :
    (∃ fault, Value.settleList follow items store = some (.error fault, later)) ∨
    ∃ settled middle result, Value.settleList follow items store = some (.ok settled, middle) ∧
      Value.settleList follow others middle = some (result, later) := by
  induction items generalizing store result with
  | nil => exact Or.inr ⟨.ok [], store, result, rfl, ends⟩
  | cons item items ih =>
      rw [List.cons_append] at ends
      rcases Value.settleList_cons_eq_some ends with
        ⟨fault, walked, rfl⟩ | ⟨first, reached, walkedFirst, behind⟩
      · exact Or.inl ⟨fault, Value.settleList_cons_of_fault walked items⟩
      · have rest : ∃ result, Value.settleList follow (items ++ others) reached =
            some (result, later) := by
          rcases behind with ⟨fault, walked, rfl⟩ | ⟨settled, walked, rfl⟩
          · exact ⟨_, walked⟩
          · exact ⟨_, walked⟩
        rcases rest with ⟨_, rest⟩
        rcases ih rest with ⟨fault, walked⟩ | ⟨settled, middle, result, walked, walkedOthers⟩
        · exact Or.inl ⟨fault, by simp only [Value.settleList, walkedFirst, walked]⟩
        · refine Or.inr ⟨first.cons settled, middle, result, ?_, walkedOthers⟩
          simp only [Value.settleList, walkedFirst, walked]

end Recursion

/-- Where the walk over values ends, settling them ends if enough depth is allowed. -/
theorem Store.Walk.settleList_ends {store later : Store} {values : List Value} {met : List Meeting}
    {ending : Option Fault} (walk : store.Walk values met ending later) :
    ∃ depth result, Value.settleList (Store.follow depth) values store = some (result, later) := by
  induction walk with
  | done store => exact ⟨0, _, rfl⟩
  | @plain store _ value _ _ _ noArray noPromise _ ih =>
      rcases ih with ⟨depth, result, ends⟩
      have first : value.settle (Store.follow depth) store = some (.ok (.ok value), store) := by
        cases value with
        | array items => exact absurd rfl (noArray items)
        | promise promise => exact absurd rfl (noPromise promise)
        | _ => rfl
      exact ⟨depth, Value.settleList_cons_of_settled first ends⟩
  | array _ ih =>
      rcases ih with ⟨depth, result, ends⟩
      rcases Value.settleList_append_eq_some ends with
        ⟨fault, within⟩ | ⟨settled, middle, _, within, behind⟩
      · exact ⟨depth, _, Value.settleList_cons_of_fault (Value.settle_array_of_fault within) _⟩
      · exact ⟨depth,
          Value.settleList_cons_of_settled (Value.settle_array_of_settled within) behind⟩
  | @resolved store reached _ allowed promise resolution _ _ _ awaited _ ih =>
      rcases ih with ⟨depth, result, ends⟩
      -- deep enough to await the promise, and one level more than the walk in its resolution needs
      have follows : ∀ {settled middle},
          resolution.settle (Store.follow depth) reached = some (settled, middle) →
          (Value.promise promise).settle (Store.follow (max allowed depth + 1)) store =
            some (settled, middle) := by
        intro settled middle walked
        have driven := Store.await_deeper (by omega : allowed ≤ max allowed depth + 1) awaited
        simp only [Value.settle, Store.follow, driven]
        exact Value.settle_further (Store.follow_deeper (Nat.le_max_right _ _)) resolution walked
      rcases Value.settleList_cons_eq_some ends with
        ⟨fault, walked, rfl⟩ | ⟨first, middle, walkedFirst, behind⟩
      · exact ⟨_, _, Value.settleList_cons_of_fault (follows walked) _⟩
      · have deeper : Extends (Store.follow depth) (Store.follow (max allowed depth + 1)) :=
          Store.follow_deeper (by omega)
        refine ⟨max allowed depth + 1, ?_⟩
        rcases behind with ⟨fault, walked, rfl⟩ | ⟨settled, walked, rfl⟩
        · exact Value.settleList_cons_of_settled (follows walkedFirst)
            (Value.settleList_further deeper _ walked)
        · exact Value.settleList_cons_of_settled (follows walkedFirst)
            (Value.settleList_further deeper _ walked)
  | @rejected store reached _ allowed promise failure _ _ _ awaited _ ih =>
      rcases ih with ⟨depth, result, ends⟩
      have driven := Store.await_deeper (by omega : allowed ≤ max allowed depth + 1) awaited
      have follows : (Value.promise promise).settle (Store.follow (max allowed depth + 1)) store =
          some (.ok (.error failure), reached) := by
        simp only [Value.settle, Store.follow, driven]
      have deeper : Extends (Store.follow depth) (Store.follow (max allowed depth + 1)) :=
        Store.follow_deeper (by omega)
      exact ⟨_, Value.settleList_cons_of_settled follows (Value.settleList_further deeper _ ends)⟩
  | @stopped store later allowed promise fault others awaited noFailure =>
      have driven := Store.await_deeper (Nat.le_succ allowed) awaited
      have follows : (Value.promise promise).settle (Store.follow (allowed + 1)) store =
          some (.error fault, later) := by
        simp only [Value.settle, Store.follow, driven]
      exact ⟨allowed + 1, _, Value.settleList_cons_of_fault follows others⟩

/-! ## What settling comes to -/

/-- What settling values comes to, by the promises that the walk over them meets. -/
inductive SettledAs (phase : Phase) (values : List Value) (met : List Meeting) :
    Option Fault → Except Fault (List Value) → Prop where
  /-- The last promise met is the first one with a fault that is no validation failure. This fault
  is the result, whatever rejections were met before it. -/
  | stopped {before : List Meeting} {promise : PromiseId} {fault : Fault}
      (noFailure : ∀ failure, fault ≠ .invalid failure)
      (last : met = before ++ [⟨promise, .error fault⟩])
      (first : ∀ meeting ∈ before, meeting.IsPassed) :
      SettledAs phase values met (some fault) (.error fault)
  /-- No such fault was met, and there were rejections. All their issues are reported as one failure
  of the side that was asked for. -/
  | rejected {failure : ValidationFailure} (passed : ∀ meeting ∈ met, meeting.IsPassed)
      (nonempty : Meeting.rejections met ≠ []) (side : failure.phase = phase)
      (issues : failure.issues =
        (Meeting.rejections met).flatMap ValidationFailure.issues) :
      SettledAs phase values met none (.error (.invalid failure))
  /-- All promises resolved, and the resolutions stand in their places. -/
  | resolved {results : List Value}
      (passed : ∀ meeting ∈ met, ∃ resolution, meeting.settlement = .ok resolution)
      (resolves : Value.ResolveTo met values results) :
      SettledAs phase values met none (.ok results)

theorem Meeting.resolved_of_passed {met : List Meeting}
    (passed : ∀ meeting ∈ met, meeting.IsPassed) (none : Meeting.rejections met = []) :
    ∀ meeting ∈ met, ∃ resolution, meeting.settlement = .ok resolution := by
  intro meeting member
  have noRejection := List.filterMap_eq_nil_iff.mp none meeting member
  cases settled : meeting.settlement with
  | ok resolution => exact ⟨resolution, rfl⟩
  | error fault =>
      rcases passed meeting member fault settled with ⟨failure, rfl⟩
      simp [Meeting.rejection?, settled] at noRejection

namespace Store

/-- What settling comes to is decided by the walk. -/
theorem settledAs_of_settle {depth : Nat} {values : List Value} {phase : Phase}
    {store later : Store} {result : Except Fault (List Value)}
    (ends : store.settle depth values phase = some (result, later)) :
    ∃ met ending, store.Walk values met ending later ∧
      SettledAs phase values met ending result := by
  have walkedOf : ∀ {result : Except Fault (Settled (List Value))},
      Value.settleList (follow depth) values store = some (result, later) →
      store.Walked values result later :=
    fun ends => Value.walked_of_settleList walkedOne_of_follow values ends
  rcases settle_eq_some ends with
    ⟨fault, walked, rfl⟩ | ⟨results, walked, rfl⟩ | ⟨failure, walked, rfl⟩
  · cases walkedOf walked with
    | @into met _ _ walks =>
        have walk := walks []
        rw [List.append_nil] at walk
        rcases walk.passes.2 fault rfl with ⟨noFailure, before, promise, rfl, first⟩
        exact ⟨_, _, walk, .stopped noFailure rfl first⟩
  · cases walkedOf walked with
    | @through met _ _ walks reports =>
        have walk := walks (.done later)
        rw [List.append_nil, List.append_nil] at walk
        exact ⟨_, _, walk,
          .resolved (Meeting.resolved_of_passed (walk.passes.1 rfl) reports.1) reports.2⟩
  · cases walkedOf walked with
    | @through met _ _ walks reports =>
        have walk := walks (.done later)
        rw [List.append_nil, List.append_nil] at walk
        have issues : failure.issues = _ := reports
        refine ⟨_, _, walk, .rejected (walk.passes.1 rfl) ?_ rfl issues⟩
        intro none
        simp [none, ValidationFailure.issues] at issues

theorem settle_ends_of_walk {values : List Value} {phase : Phase} {store later : Store}
    {met : List Meeting} {ending : Option Fault} (walk : store.Walk values met ending later) :
    ∃ enough result, SettledAs phase values met ending result ∧
      ∀ depth, enough ≤ depth → store.settle depth values phase = some (result, later) := by
  rcases walk.settleList_ends with ⟨enough, settled, ends⟩
  have settles : ∃ result, ∀ depth, enough ≤ depth →
      store.settle depth values phase = some (result, later) := by
    have deeper : ∀ depth, enough ≤ depth →
        Value.settleList (follow depth) values store = some (settled, later) :=
      fun depth le => Value.settleList_further (follow_deeper le) values ends
    rcases settled with fault | failure | results
    · exact ⟨.error fault, fun depth le => by simp only [settle, deeper depth le]⟩
    · exact ⟨.error (.invalid { failure with phase }), fun depth le => by
        simp only [settle, deeper depth le]⟩
    · exact ⟨.ok results, fun depth le => by simp only [settle, deeper depth le]⟩
  rcases settles with ⟨result, settles⟩
  rcases settledAs_of_settle (settles enough (Nat.le_refl _)) with
    ⟨otherMet, otherEnding, other, settledAs⟩
  rcases walk.unique other with ⟨rfl, rfl, _⟩
  exact ⟨enough, result, settledAs, settles⟩

end Store

/-- Settling values ends exactly if the walk over them does, with the store as it is then. The
promises that the walk meets are driven, and nothing else is done. A fault that stops the walk is
the result; otherwise the issues of all rejections that were met are reported as one failure; and if
there are none, the result is the values with full resolutions in the places of promises. No promise
can be reached in it any more, what had none is as it was, and settling it again changes nothing. -/
theorem settle_follows_walk (values : List Value) (phase : Phase) (store : Store) :
    (∀ met ending later, store.Walk values met ending later →
      store.Drives met later ∧
      ∃ enough result, SettledAs phase values met ending result ∧
        ∀ depth, enough ≤ depth → store.settle depth values phase = some (result, later)) ∧
    (∀ depth result later, store.settle depth values phase = some (result, later) →
      ∃ met ending, store.Walk values met ending later ∧
        SettledAs phase values met ending result) ∧
    ∀ depth results later, store.settle depth values phase = some (.ok results, later) →
      results.length = values.length ∧ Value.arePromiseFree results ∧
      (∀ (position : Nat) (value : Value), values[position]? = some value →
        value.isPromiseFree → results[position]? = some value) ∧
      ∀ (side : Phase) (deeper : Nat) (behind : Store),
        behind.settle deeper results side = some (.ok results, behind) := by
  refine ⟨?_, ?_, ?_⟩
  · intro met ending later walk
    exact ⟨walk.drives, Store.settle_ends_of_walk walk⟩
  · intro depth result later ends
    exact Store.settledAs_of_settle ends
  · intro depth results later ends
    rcases Store.settledAs_of_settle ends with ⟨met, _, _, settledAs⟩
    cases settledAs with
    | resolved _ resolves =>
        have free := resolves.arePromiseFree
        refine ⟨resolves.length_eq, free, ?_, ?_⟩
        · exact fun position value found => resolves.getElem?_of_isPromiseFree found
        · intro side deeper behind
          simp only [Store.settle, Value.settleList_of_arePromiseFree _ results free]

/-- An array of a promise that resolves to an array, then a promise that is rejected with a failure,
then one that a function failed in, and the first one again: settling them stops at the third. -/
theorem settle_follows_walk_of_stopped :
    let failure : ValidationFailure := ⟨.result, ⟨⟨.result, [0]⟩, "number", "null"⟩, []⟩
    let store : Store := { Store.empty with
      promises := #[.pending (.finish (.ok (.array [.null, .promise ⟨1⟩]))),
        .pending (.finish (.error (.invalid failure))),
        .pending (.finish (.error (.raised "stop")))] }
    let values : List Value :=
      [.array [.promise ⟨0⟩, .string "x"], .promise ⟨2⟩, .promise ⟨0⟩]
    let met : List Meeting := [⟨⟨0⟩, .ok (.array [.null, .promise ⟨1⟩])⟩,
      ⟨⟨1⟩, .error (.invalid failure)⟩, ⟨⟨2⟩, .error (.raised "stop")⟩]
    ∃ later, store.Walk values met (some (.raised "stop")) later ∧
      store.Drives met later ∧
      ∃ enough, ∀ depth, enough ≤ depth →
        store.settle depth values .arguments = some (.error (.raised "stop"), later) := by
  intro failure store values met
  have walk : ∃ later, store.Walk values met (some (.raised "stop")) later := by
    apply Exists.intro
    apply Store.Walk.array
    apply Store.Walk.resolved (rfl : store.await 2 ⟨0⟩ = some (_, _))
    apply Store.Walk.array
    apply Store.Walk.plain (by simp) (by simp)
    apply Store.Walk.rejected (rfl : Store.await 2 ⟨1⟩ _ = some (_, _))
    apply Store.Walk.plain (by simp) (by simp)
    exact .stopped _ (rfl : Store.await 2 ⟨2⟩ _ = some (_, _)) (by simp)
  rcases walk with ⟨later, walk⟩
  rcases (settle_follows_walk values .arguments store).1 met _ later walk with
    ⟨drives, enough, result, settledAs, settles⟩
  cases settledAs with
  | stopped _ _ _ => exact ⟨later, walk, drives, enough, settles⟩

end CallContracts
