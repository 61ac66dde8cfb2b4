import CallContracts.Proofs.Coherence

/-!
# What settling gathers

Settling fails with the issues of all rejections that it meets, in the order in which it meets them,
under the side that it is told to report. What it fails with is therefore coherent exactly if all
these rejections are of that side.

With this, the failures of whole sessions are accounted for: those of checks, calls and awaits are
coherent, and so is every rejection, while a failure of settling may speak of the other side.
-/

namespace CallContracts

/-! ## Gathered rejections -/

/-- Some promise has been rejected with the failure. -/
def ValidationFailure.IsNoted (failure : ValidationFailure) (store : Store) : Prop :=
  ∃ promise, store.settlement? promise = some (.error (.invalid failure))

/-- The issues of the failure are those of noted rejections, one rejection after the other. -/
structure ValidationFailure.Gathers (failure : ValidationFailure)
    (rejections : List ValidationFailure) (store : Store) : Prop where
  issues_eq : failure.issues = rejections.flatMap ValidationFailure.issues
  noted : ∀ rejection ∈ rejections, rejection.IsNoted store

namespace ValidationFailure

theorem IsNoted.gathers {failure : ValidationFailure} {store : Store}
    (noted : failure.IsNoted store) : failure.Gathers [failure] store := by
  refine ⟨by simp, ?_⟩
  intro rejection member
  rw [List.mem_singleton.mp member]
  exact noted

theorem Gathers.append {left right : ValidationFailure}
    {rejections others : List ValidationFailure} {store : Store}
    (first : left.Gathers rejections store) (behind : right.Gathers others store) :
    (left.append right).Gathers (rejections ++ others) store := by
  refine ⟨?_, ?_⟩
  · rw [List.flatMap_append, ← first.issues_eq, ← behind.issues_eq]
    simp [ValidationFailure.append, issues]
  · intro rejection member
    rcases List.mem_append.mp member with member | member
    · exact first.noted rejection member
    · exact behind.noted rejection member

/-- A failure that gathers coherent rejections is coherent exactly if they are all of its side. -/
theorem Gathers.isCoherent_iff {failure : ValidationFailure}
    {rejections : List ValidationFailure} {store : Store}
    (gathers : failure.Gathers rejections store)
    (coherent : ∀ rejection ∈ rejections, rejection.IsCoherent) :
    failure.IsCoherent ↔ ∀ rejection ∈ rejections, rejection.phase = failure.phase := by
  have gathered : ∀ issue,
      issue ∈ failure.issues ↔ ∃ rejection ∈ rejections, issue ∈ rejection.issues := by
    intro issue
    rw [gathers.issues_eq, List.mem_flatMap]
  constructor
  · rintro ⟨_, sameSide⟩ rejection member
    have own : rejection.first ∈ rejection.issues := List.mem_cons_self
    rw [← (coherent rejection member).2 rejection.first own]
    exact sameSide rejection.first ((gathered _).mpr ⟨rejection, member, own⟩)
  · intro sameSide
    refine ⟨List.cons_ne_nil _ _, ?_⟩
    intro issue member
    rcases (gathered issue).mp member with ⟨rejection, isRejection, isIssue⟩
    rw [(coherent rejection isRejection).2 issue isIssue, sameSide rejection isRejection]

end ValidationFailure

namespace Store

/-- No rejection of one store is forgotten in the other. -/
def KeepsRejections (store later : Store) : Prop :=
  ∀ promise fault, store.settlement? promise = some (.error fault) →
    later.settlement? promise = some (.error fault)

theorem KeepsRejections.refl (store : Store) : store.KeepsRejections store :=
  fun _ _ noted => noted

theorem KeepsRejections.trans {store middle later : Store} (first : store.KeepsRejections middle)
    (second : middle.KeepsRejections later) : store.KeepsRejections later :=
  fun promise fault noted => second promise fault (first promise fault noted)

theorem keepsRejections_of_await {depth : Nat} {promise : PromiseId} {store later : Store}
    {settlement : Settlement} (ends : store.await depth promise = some (settlement, later)) :
    store.KeepsRejections later := by
  intro rejected fault noted
  exact (rejection_invariant rejected fault).run noted ends

end Store

theorem ValidationFailure.Gathers.kept {failure : ValidationFailure}
    {rejections : List ValidationFailure} {store later : Store}
    (gathers : failure.Gathers rejections store) (keeps : store.KeepsRejections later) :
    failure.Gathers rejections later := by
  refine ⟨gathers.issues_eq, ?_⟩
  intro rejection member
  rcases gathers.noted rejection member with ⟨promise, noted⟩
  exact ⟨promise, keeps promise _ noted⟩

/-! ## The walk over values -/

/-- What a walk comes to, as far as failures go: a failure that it reports gathers rejections, and a
fault that ends it at once is nothing that it could gather. -/
def GathersRejections {α : Type} : Except Fault (Settled α) → Store → Prop
  | .ok (.ok _), _ => True
  | .ok (.error failure), later => ∃ rejections, failure.Gathers rejections later
  | .error fault, _ => ∀ failure, fault ≠ .invalid failure

theorem GathersRejections.map {α β : Type} {settled : Settled α} {later : Store}
    (gathers : GathersRejections (.ok settled) later) (wrap : α → β) :
    GathersRejections (.ok (settled.map wrap)) later := by
  cases settled with
  | ok part => trivial
  | error failure => exact gathers

/-- What was met in an item stays gathered behind the other items. -/
theorem GathersRejections.cons {first : Settled Value} {others : Settled (List Value)}
    {middle later : Store} (gathersFirst : GathersRejections (.ok first) middle)
    (keeps : middle.KeepsRejections later) (gathersOthers : GathersRejections (.ok others) later) :
    GathersRejections (.ok (first.cons others)) later := by
  cases first with
  | ok item =>
      cases others with
      | ok items => trivial
      | error failure => exact gathersOthers
  | error left =>
      rcases gathersFirst with ⟨rejections, gathersLeft⟩
      cases others with
      | ok items => exact ⟨rejections, gathersLeft.kept keeps⟩
      | error right =>
          rcases gathersOthers with ⟨behind, gathersRight⟩
          exact ⟨rejections ++ behind, (gathersLeft.kept keeps).append gathersRight⟩

section Walk

variable {follow : PromiseId → Store → Option (Except Fault (Settled Value) × Store)}

mutual

/-- The walk over a value gathers rejections if following a promise does. -/
theorem Value.settle_gathersRejections
    (keeps : ∀ {promise store result later}, follow promise store = some (result, later) →
      store.KeepsRejections later)
    (followed : ∀ {promise store result later}, follow promise store = some (result, later) →
      GathersRejections result later)
    (value : Value) {store later : Store} {result : Except Fault (Settled Value)}
    (ends : value.settle follow store = some (result, later)) :
    GathersRejections result later := by
  cases value with
  | promise id =>
      simp only [Value.settle] at ends
      exact followed ends
  | array items =>
      rcases Value.settle_array_eq_some ends with ⟨fault, walked, rfl⟩ | ⟨settled, walked, rfl⟩
      · exact Value.settleList_gathersRejections keeps followed items walked
      · exact (Value.settleList_gathersRejections keeps followed items walked).map Value.array
  | _ =>
      simp only [Value.settle, Option.some.injEq, Prod.mk.injEq] at ends
      rcases ends with ⟨rfl, rfl⟩
      trivial
termination_by structural value

theorem Value.settleList_gathersRejections
    (keeps : ∀ {promise store result later}, follow promise store = some (result, later) →
      store.KeepsRejections later)
    (followed : ∀ {promise store result later}, follow promise store = some (result, later) →
      GathersRejections result later)
    (items : List Value) {store later : Store} {result : Except Fault (Settled (List Value))}
    (ends : Value.settleList follow items store = some (result, later)) :
    GathersRejections result later := by
  cases items with
  | nil =>
      simp only [Value.settleList, Option.some.injEq, Prod.mk.injEq] at ends
      rcases ends with ⟨rfl, rfl⟩
      trivial
  | cons item items =>
      rcases Value.settleList_cons_eq_some ends with
        ⟨fault, walked, rfl⟩ | ⟨first, middle, walkedFirst, others⟩
      · exact Value.settle_gathersRejections keeps followed item walked
      · have gathersFirst := Value.settle_gathersRejections keeps followed item walkedFirst
        rcases others with ⟨fault, walked, rfl⟩ | ⟨others, walked, rfl⟩
        · exact Value.settleList_gathersRejections keeps followed items walked
        · -- the walk over the others awaits more promises, which forgets no rejection
          have kept : middle.KeepsRejections later := by
            apply Value.settleList_keeps _ items (Store.KeepsRejections.refl middle) walked
            exact fun before driven => before.trans (keeps driven)
          exact gathersFirst.cons kept
            (Value.settleList_gathersRejections keeps followed items walked)
termination_by structural items

end

end Walk

namespace Store

theorem keepsRejections_of_follow {depth : Nat} {promise : PromiseId} {store later : Store}
    {result : Except Fault (Settled Value)}
    (ends : follow depth promise store = some (result, later)) :
    store.KeepsRejections later := by
  apply follow_keeps _ depth (KeepsRejections.refl store) ends
  exact fun before awaited => before.trans (keepsRejections_of_await awaited)

theorem follow_gathersRejections {depth : Nat} {promise : PromiseId} {store later : Store}
    {result : Except Fault (Settled Value)}
    (ends : follow depth promise store = some (result, later)) :
    GathersRejections result later := by
  induction depth generalizing promise store later result with
  | zero => simp [follow] at ends
  | succ depth ih =>
      rcases follow_eq_some ends with
        ⟨resolution, middle, _, walked⟩ | ⟨failure, awaited, rfl⟩ | ⟨fault, _, noFailure, rfl⟩
      · exact resolution.settle_gathersRejections keepsRejections_of_follow ih walked
      · have noted : failure.IsNoted later := ⟨promise, settlement?_of_await awaited⟩
        exact ⟨[failure], noted.gathers⟩
      · exact noFailure

/-- A failure of settling names the side that was asked for and gathers rejections. -/
theorem settle_gathers {depth : Nat} {values : List Value} {phase : Phase} {store later : Store}
    {failure : ValidationFailure}
    (ends : store.settle depth values phase = some (.error (.invalid failure), later)) :
    failure.phase = phase ∧ ∃ rejections, failure.Gathers rejections later := by
  have gathersOf : ∀ {result : Except Fault (Settled (List Value))},
      Value.settleList (follow depth) values store = some (result, later) →
      GathersRejections result later :=
    Value.settleList_gathersRejections keepsRejections_of_follow follow_gathersRejections values
  rcases settle_eq_some ends with ⟨fault, walked, same⟩ | ⟨_, _, same⟩ | ⟨gathered, walked, same⟩
  · have noFailure : ∀ failure, fault ≠ .invalid failure := gathersOf walked
    exact absurd (Except.error.inj same).symm (noFailure failure)
  · cases same
  · have gathers : ∃ rejections, gathered.Gathers rejections later := gathersOf walked
    rcases gathers with ⟨rejections, issues_eq, noted⟩
    have isGathered : failure = { gathered with phase } := by simpa using same
    subst isGathered
    exact ⟨rfl, rejections, issues_eq, noted⟩

end Store

/-! ## The failures of a session -/

/-- In a session whose own code makes up no incoherent failures, all failures of checks, calls and
awaits are coherent, wherever they turn up in a run, and so are all rejections. Settling only awaits
promises; what it fails with names the side that was asked for, has all the issues of coherent
rejections, and is coherent exactly if these are all of that side. -/
theorem session_failures_coherent_apart_from_settling {store : Store}
    (session : Store.Session Program.IsCareful Store.empty store) :
    (∀ promise settlement, store.settlement? promise = some settlement →
      settlement.IsCoherent) ∧
    (∀ (request : Request) (depth : Nat), request.Meets Program.IsCareful →
      (∀ settlement later, store.run depth request.program = some (settlement, later) →
        settlement.IsCoherent) ∧
      ∀ settlement, Store.EndsWithin depth request.program store settlement →
        settlement.IsCoherent) ∧
    ∀ depth values phase result later,
      store.settle depth values phase = some (result, later) →
      Relation.ReflTransGen Store.AwaitsOnce store later ∧
      ∀ failure, result = .error (.invalid failure) →
        failure.phase = phase ∧ failure.issues ≠ [] ∧
        ∃ rejections, failure.Gathers rejections later ∧
          (∀ rejection ∈ rejections, rejection.IsCoherent) ∧
          (failure.IsCoherent ↔ ∀ rejection ∈ rejections, rejection.phase = phase) := by
  have sound := Store.isSound_of_session session
  refine ⟨fun promise settlement settled => sound.isCoherent_of_settled settled, ?_, ?_⟩
  · intro request depth meets
    have careful := Request.isCareful meets
    refine ⟨?_, ?_⟩
    · intro settlement later ends
      exact (Store.run_endsSoundly careful sound ends).1
    · intro settlement within
      exact within.isCoherent careful sound
  · intro depth values phase result later ends
    refine ⟨Store.settle_awaits ends, ?_⟩
    rintro failure rfl
    rcases Store.settle_gathers ends with ⟨rfl, rejections, gathers⟩
    have soundLater : later.IsSound := sound.step (.settle ends)
    have coherent : ∀ rejection ∈ rejections, rejection.IsCoherent := by
      intro rejection member
      rcases gathers.noted rejection member with ⟨promise, noted⟩
      exact soundLater.isCoherent_of_settled noted
    refine ⟨rfl, List.cons_ne_nil _ _, rejections, gathers, coherent, ?_⟩
    exact gathers.isCoherent_iff coherent

/-- The guard of `async (n: number) => void` is called with `null`, and the promise that it returns
is settled as a return value. The failure names the return value, its only issue an argument. -/
theorem settle_reports_argument_as_result :
    ∃ schema : FunctionSchema,
      FunctionSchema.compile ⟨true, [⟨some "n", false, .primitive .number⟩], .primitive .void⟩ =
        .ok schema ∧
      let target := Store.empty.newCallable none fun _ => .finish (.ok .undefined)
      let guard := schema.implement target.1 target.2
      let failure : ValidationFailure := ⟨.result, ⟨⟨.arguments, [0]⟩, "number", "null"⟩, []⟩
      ∃ called settled : Store,
        guard.2.call 2 guard.1 [.null] = some (.ok (.promise ⟨0⟩), called) ∧
        Store.Session Program.IsCareful Store.empty called ∧
        called.settle 2 [.promise ⟨0⟩] .result = some (.error (.invalid failure), settled) ∧
        ¬failure.IsCoherent := by
  refine ⟨⟨⟨true, [⟨some "n", false, .primitive .number⟩], .primitive .void⟩,
    ⟨[⟨.number, false⟩]⟩, .void⟩, rfl, ?_⟩
  intro target guard failure
  refine ⟨_, _, rfl, ?_, rfl, ?_⟩
  · have made : Store.Session Program.IsCareful Store.empty target.2 :=
      .single (.function none _ fun _ => trivial)
    have guarded : Store.Session Program.IsCareful Store.empty guard.2 :=
      made.tail (.guard _ target.1)
    exact guarded.tail (.request (.call guard.1 [.null]) 2 trivial rfl)
  · intro coherent
    exact absurd (coherent.2 _ List.mem_cons_self) (by decide)

/-- The promise that the guard of `async (n: number) => void` returns for `null` is handed to the
guard of `(p: Promise<number>) => Promise<number>`. The promise that this one returns is rejected
coherently. Settling it as a return value gathers rejections that are not all of that side. -/
theorem session_failures_of_handed_promise :
    ∃ first second : FunctionSchema,
      let target := Store.empty.newCallable none fun arguments =>
        .finish (.ok (arguments.headD .undefined))
      let inner := first.implement target.1 target.2
      let outer := second.implement target.1 inner.2
      let rejection : ValidationFailure := ⟨.arguments, ⟨⟨.arguments, [0]⟩, "number", "null"⟩, []⟩
      let failure : ValidationFailure := { rejection with phase := .result }
      ∃ called passed settled : Store,
        outer.2.call 2 inner.1 [.null] = some (.ok (.promise ⟨0⟩), called) ∧
        called.call 3 outer.1 [.promise ⟨0⟩] = some (.ok (.promise ⟨2⟩), passed) ∧
        Store.Session Program.IsCareful Store.empty passed ∧
        (passed.await 4 ⟨2⟩).map Prod.fst = some (.error (.invalid rejection)) ∧
        rejection.IsCoherent ∧
        passed.settle 5 [.promise ⟨2⟩] .result = some (.error (.invalid failure), settled) ∧
        ∃ rejections, failure.Gathers rejections settled ∧
          (failure.IsCoherent ↔ ∀ rejection ∈ rejections, rejection.phase = .result) := by
  refine ⟨⟨⟨true, [⟨some "n", false, .primitive .number⟩], .primitive .void⟩,
    ⟨[⟨.number, false⟩]⟩, .void⟩, ⟨⟨false, [⟨some "p", false, .promise (.primitive .number)⟩],
    .promise (.primitive .number)⟩, ⟨[⟨.promise .number, false⟩]⟩, .promise .number⟩, ?_⟩
  intro target inner outer rejection failure
  have made : Store.Session Program.IsCareful Store.empty target.2 :=
    .single (.function none _ fun _ => trivial)
  have guarded : Store.Session Program.IsCareful Store.empty outer.2 :=
    (made.tail (.guard _ target.1)).tail (.guard _ target.1)
  have called := guarded.tail (.request (.call inner.1 [.null]) 2 trivial rfl)
  have session := called.tail (.request (.call outer.1 [.promise ⟨0⟩]) 3 trivial rfl)
  rcases session_failures_coherent_apart_from_settling session with ⟨_, coherent, settling⟩
  rcases (settling 5 [.promise ⟨2⟩] .result _ _ rfl).2 failure rfl with
    ⟨_, _, rejections, gathers, _, coherent_iff⟩
  refine ⟨_, _, _, rfl, rfl, session, rfl, ?_, rfl, rejections, gathers, coherent_iff⟩
  exact (coherent (.await ⟨2⟩) 4 trivial).1 _ _ rfl

end CallContracts
