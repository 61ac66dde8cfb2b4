import CallContracts.Proofs.Conformance

/-!
# Promised types are upheld

A value that passed a check conforms to its type, and there are promises in the places of its
promise-typed parts. What is promised holds as well: such a promise never resolves to anything but a
value that conforms to the promised type and, where more is promised in it, keeps that too. This is
`TypeExpr.Upheld`, by recursion on the type.

The proof keeps a book of pledges, of which promises are to resolve to which types. A store honours
its pledges if the pledged promises wait to do the checks of their types, or have resolved to what
such a check passes on. A run makes new promises and so new pledges, but it never adds a pledge for
a promise that was there before.
-/

namespace CallContracts

mutual

/-- The value is what the type asks for, and each of its promise-typed parts is a promise that never
resolves to anything but what is promised. -/
def TypeExpr.Upheld : TypeExpr → Value → Store → Prop
  | .primitive kind, value, _ => kind.Conforms value
  | .array element, value, store =>
    ∃ items, value = .array items ∧ ∀ item ∈ items, element.Upheld item store
  | .tuple elements, value, store =>
    ∃ items, value = .array items ∧ TypeExpr.AllUpheld elements items store
  | .promise inner, value, store =>
    ∃ promise, value = .promise promise ∧ promise.index < store.promises.size ∧
      ∀ later, Store.Session (fun _ => True) store later →
        ∀ resolution, later.settlement? promise = some (.ok resolution) →
          inner.Upheld resolution later
  | .function _, value, _ => ∃ callable, value = .function callable
termination_by structural type => type

/-- There are as many items as types, and for each item the type at its place is upheld. -/
def TypeExpr.AllUpheld : List TypeExpr → List Value → Store → Prop
  | [], [], _ => True
  | type :: types, item :: items, store =>
    type.Upheld item store ∧ TypeExpr.AllUpheld types items store
  | _, _, _ => False
termination_by structural types => types

end

theorem allUpheld_replicate_iff (element : TypeExpr) (items : List Value) (store : Store) :
    TypeExpr.AllUpheld (List.replicate items.length element) items store ↔
      ∀ item ∈ items, element.Upheld item store := by
  induction items with
  | nil => simp [TypeExpr.AllUpheld]
  | cons item items ih => simp [List.replicate_succ, TypeExpr.AllUpheld, ih]

/-! ## Pledges -/

/-- Which promises are to resolve to which types. -/
abbrev Pledges : Type :=
  PromiseId → TypeExpr → Prop

/-- The value is what a check against the type passed on, and what it promises is pledged. -/
def Pledges.Cover (pledges : Pledges) (type : TypeExpr) (result : Value) : Prop :=
  ∃ path value parts, type.Conforms value ∧ type.Replaces path value result parts ∧
    ∀ part ∈ parts, pledges part.promise part.inner

theorem Pledges.Cover.mono {pledges more : Pledges} {type : TypeExpr} {result : Value}
    (covers : pledges.Cover type result)
    (keep : ∀ promise type, pledges promise type → more promise type) :
    more.Cover type result := by
  rcases covers with ⟨path, value, parts, conforms, replaces, pledged⟩
  refine ⟨path, value, parts, conforms, replaces, ?_⟩
  exact fun part member => keep _ _ (pledged part member)

namespace Store

/-- The promise waits to check a value against the type. -/
def Offers (store : Store) : Pledges :=
  fun promise type => ∃ value path, store.deferred promise = .pending (type.schema.work value path)

/-- Each pledged promise waits to check a value against its type, or has resolved to what such a
check passed on, or is rejected. -/
structure Honours (store : Store) (pledges : Pledges) : Prop where
  known : ∀ {promise : PromiseId} {type : TypeExpr}, pledges promise type →
    promise.index < store.promises.size
  pending : ∀ {promise : PromiseId} {type : TypeExpr} {work : Program}, pledges promise type →
    store.deferred promise = .pending work → ∃ value path, work = type.schema.work value path
  resolved : ∀ {promise : PromiseId} {type : TypeExpr} {result : Value}, pledges promise type →
    store.deferred promise = .settled (.ok result) → pledges.Cover type result

theorem honours_offers (store : Store) : store.Honours store.Offers where
  known := by
    rintro promise type ⟨value, path, pending⟩
    exact known_of_pending pending
  pending := by
    rintro promise type work ⟨value, path, offered⟩ pending
    rw [offered, Deferred.pending.injEq] at pending
    exact ⟨value, path, pending.symm⟩
  resolved := by
    rintro promise type result ⟨value, path, offered⟩ settled
    simp [offered] at settled

/-- Promises that wait to check values may be pledged besides. -/
theorem Honours.or_offers {store : Store} {pledges others : Pledges}
    (honours : store.Honours pledges) (offered : ∀ promise type, others promise type →
      store.Offers promise type) :
    store.Honours fun promise type => pledges promise type ∨ others promise type where
  known := by
    rintro promise type (pledged | other)
    · exact honours.known pledged
    · exact (honours_offers store).known (offered _ _ other)
  pending := by
    rintro promise type work (pledged | other) pending
    · exact honours.pending pledged pending
    · exact (honours_offers store).pending (offered _ _ other) pending
  resolved := by
    rintro promise type result (pledged | other) settled
    · exact (honours.resolved pledged settled).mono fun _ _ => Or.inl
    · rcases offered _ _ other with ⟨value, path, pending⟩
      simp [pending] at settled

theorem Honours.newPromise {store : Store} {pledges : Pledges} (honours : store.Honours pledges)
    (work : Program) : (store.newPromise work).2.Honours pledges where
  known pledged := by simpa [Store.newPromise] using Nat.lt_succ_of_lt (honours.known pledged)
  pending pledged state := by
    rw [deferred_newPromise_of_lt (honours.known pledged)] at state
    exact honours.pending pledged state
  resolved pledged state := by
    rw [deferred_newPromise_of_lt (honours.known pledged)] at state
    exact honours.resolved pledged state

/-- A settlement may be noted if it is a rejection or covered by what is pledged of the promise. -/
theorem Honours.settlePromise {store : Store} {pledges : Pledges} (honours : store.Honours pledges)
    {promise : PromiseId} {settlement : Settlement}
    (covered : ∀ type result, pledges promise type → settlement = .ok result →
      pledges.Cover type result) :
    (store.settlePromise promise settlement).Honours pledges where
  known pledged := by simpa [Store.settlePromise] using honours.known pledged
  pending {other type work} pledged state := by
    by_cases same : promise = other
    · subst same
      simp [deferred_settlePromise (honours.known pledged)] at state
    · rw [deferred_settlePromise_of_ne same] at state
      exact honours.pending pledged state
  resolved {other type result} pledged state := by
    by_cases same : promise = other
    · subst same
      rw [deferred_settlePromise (honours.known pledged), Deferred.settled.injEq] at state
      exact covered type result pledged state
    · rw [deferred_settlePromise_of_ne same] at state
      exact honours.resolved pledged state

end Store

/-- A promise of a check resolves to what the check passes on, at the very end of its work. -/
theorem TypeExpr.passesOn_of_run_work {type : TypeExpr} {value result : Value} {path : IssuePath}
    {store later : Store} {depth : Nat}
    (worked : store.run depth (type.schema.work value path) = some (.ok result, later)) :
    ∃ resolution reached, store.promises.size ≤ reached.promises.size ∧
      type.Conforms resolution ∧ type.PassesOn resolution path reached result later := by
  cases depth with
  | zero => simp [Store.run] at worked
  | succ depth =>
      simp only [Schema.work, Store.run_resolve] at worked
      cases resolves : store.resolution (depth + 1) value with
      | none => simp [resolves] at worked
      | some reached =>
          rcases reached with ⟨fault | resolution, reached⟩
          · simp [resolves] at worked
          · simp only [resolves] at worked
            have grown : store.promises.size ≤ reached.promises.size := by
              cases value with
              | promise promise => exact Store.promises_passage.run resolves
              | _ =>
                  simp only [Store.resolution, Option.some.injEq, Prod.mk.injEq] at resolves
                  exact resolves.2 ▸ Nat.le_refl _
            by_cases conforms : type.Conforms resolution
            · rcases type.run_check_of_conforms conforms path reached depth with
                ⟨passed, left, ends, passesOn⟩
              rw [ends, Option.some.injEq, Prod.mk.injEq, Except.ok.injEq] at worked
              rcases worked with ⟨rfl, rfl⟩
              exact ⟨resolution, reached, grown, conforms, passesOn⟩
            · rcases type.run_check_of_not_conforms conforms path reached depth with
                ⟨failure, ends⟩
              simp [ends] at worked

/-- The promises of what was just passed on are new and wait for their checks. -/
theorem TypeExpr.PassesOn.covered {type : TypeExpr} {value result : Value} {path : IssuePath}
    {store later : Store} (conforms : type.Conforms value)
    (passesOn : type.PassesOn value path store result later) {pledges : Pledges}
    (pledged : ∀ promise type, store.promises.size ≤ promise.index → later.Offers promise type →
      pledges promise type) : pledges.Cover type result := by
  rcases passesOn with ⟨parts, replaces, numbered, rfl, _⟩
  refine ⟨path, value, parts, conforms, replaces, ?_⟩
  intro part member
  have made := PromisedPart.deferred_deferAll_of_mem numbered member
  exact pledged _ _ made.1 ⟨part.value, part.path, made.2⟩

namespace Store

/-- What was pledged stays pledged and is honoured. Only promises that are new may be pledged
besides. -/
def KeepsPledges (store later : Store) : Prop :=
  store.promises.size ≤ later.promises.size ∧
  ∀ pledges : Pledges, store.Honours pledges →
    ∃ more : Pledges, (∀ promise type, pledges promise type → more promise type) ∧
      (∀ promise type, more promise type →
        pledges promise type ∨ store.promises.size ≤ promise.index) ∧
      later.Honours more

theorem keepsPledges_of_honours {store later : Store}
    (grown : store.promises.size ≤ later.promises.size)
    (honours : ∀ pledges, store.Honours pledges → later.Honours pledges) :
    store.KeepsPledges later :=
  ⟨grown, fun pledges isHonoured => ⟨pledges, fun _ _ => id, fun _ _ => Or.inl,
    honours pledges isHonoured⟩⟩

theorem keepsPledges_passage : Passage KeepsPledges where
  refl _ := keepsPledges_of_honours (Nat.le_refl _) fun _ => id
  trans {store middle later} first second := by
    refine ⟨Nat.le_trans first.1 second.1, ?_⟩
    intro pledges honours
    rcases first.2 pledges honours with ⟨more, kept, new, honoursMiddle⟩
    rcases second.2 more honoursMiddle with ⟨most, keptMore, newer, honoursLater⟩
    refine ⟨most, fun _ _ pledged => keptMore _ _ (kept _ _ pledged), ?_, honoursLater⟩
    intro promise type pledged
    rcases newer promise type pledged with old | isNew
    · exact new promise type old
    · exact Or.inr (Nat.le_trans first.1 isNew)
  record _ _ := keepsPledges_of_honours (Nat.le_refl _) fun _ honours =>
    ⟨honours.known, honours.pending, honours.resolved⟩
  newPromise store work := keepsPledges_of_honours (by simp [newPromise]) fun _ honours =>
    honours.newPromise work
  newCallable _ _ _ := keepsPledges_of_honours (Nat.le_refl _) fun _ honours =>
    ⟨honours.known, honours.pending, honours.resolved⟩
  save _ _ _ := keepsPledges_of_honours (Nat.le_refl _) fun _ honours =>
    ⟨honours.known, honours.pending, honours.resolved⟩
  settlePromise {store later promise work depth settlement} state worked leads := by
    refine ⟨by simpa [settlePromise, record] using leads.1, ?_⟩
    intro pledges honours
    have honoursRecord : (store.record (.started promise)).Honours pledges :=
      ⟨honours.known, honours.pending, honours.resolved⟩
    rcases leads.2 pledges honoursRecord with ⟨more, kept, new, honoursLater⟩
    -- what the work passed on at its end is pledged as well
    let offered : Pledges := fun promise type =>
      store.promises.size ≤ promise.index ∧ later.Offers promise type
    refine ⟨fun promise type => more promise type ∨ offered promise type,
      fun _ _ pledged => Or.inl (kept _ _ pledged), ?_, ?_⟩
    · rintro other type (pledged | isOffered)
      · exact new other type pledged
      · exact Or.inr isOffered.1
    · have honoursAll : later.Honours fun promise type =>
          more promise type ∨ offered promise type :=
        honoursLater.or_offers fun _ _ isOffered => isOffered.2
      apply honoursAll.settlePromise
      rintro type result pledged rfl
      -- the promise was there before, so its pledge was, and the work is the check of its type
      have old : promise.index < store.promises.size := known_of_pending state
      have pledgedBefore : pledges promise type := by
        rcases pledged with pledged | isOffered
        · exact (new promise type pledged).resolve_right (Nat.not_le_of_lt old)
        · exact absurd isOffered.1 (Nat.not_le_of_lt old)
      rcases honours.pending pledgedBefore state with ⟨value, path, rfl⟩
      rcases TypeExpr.passesOn_of_run_work worked with
        ⟨resolution, reached, grown, conforms, passesOn⟩
      apply passesOn.covered conforms
      intro other otherType isNew isOffered
      exact Or.inr ⟨Nat.le_trans grown isNew, isOffered⟩

end Store

/-! ## What is pledged is upheld -/

/-- If the store honours the pledges, the type is upheld for whatever they cover. -/
def TypeExpr.UpheldIfCovered (type : TypeExpr) : Prop :=
  ∀ {pledges : Pledges} {store : Store} {path : IssuePath} {value result : Value}
    {parts : List PromisedPart}, store.Honours pledges → type.Conforms value →
    type.Replaces path value result parts → (∀ part ∈ parts, pledges part.promise part.inner) →
    type.Upheld result store

theorem allUpheld_of_allReplace {types : List TypeExpr}
    (each : ∀ type ∈ types, type.UpheldIfCovered) {pledges : Pledges} {store : Store}
    {path : IssuePath} {index : Nat} {items results : List Value} {parts : List PromisedPart}
    (honours : store.Honours pledges) (conform : TypeExpr.AllConform types items)
    (replace : TypeExpr.AllReplace types path index items results parts)
    (pledged : ∀ part ∈ parts, pledges part.promise part.inner) :
    TypeExpr.AllUpheld types results store := by
  induction types generalizing index items results parts with
  | nil =>
      cases replace
      simp [TypeExpr.AllUpheld]
  | cons type types ih =>
      cases replace with
      | cons first behind =>
          simp only [TypeExpr.AllConform] at conform
          simp only [List.mem_append] at pledged
          simp only [TypeExpr.AllUpheld]
          refine ⟨?_, ?_⟩
          · apply each type List.mem_cons_self honours conform.1 first
            exact fun part member => pledged part (Or.inl member)
          · apply ih (fun other member => each other (List.mem_cons_of_mem _ member)) conform.2
              behind
            exact fun part member => pledged part (Or.inr member)

theorem TypeExpr.upheldIfCovered (type : TypeExpr) : type.UpheldIfCovered := by
  induction type using TypeExpr.induction with
  | primitive kind =>
      intro pledges store path value result parts _ conforms replaces _
      cases replaces
      simpa [TypeExpr.Upheld, TypeExpr.Conforms] using conforms
  | array element ih =>
      intro pledges store path value result parts honours conforms replaces pledged
      cases replaces with
      | @array _ _ items results _ replace =>
          simp only [TypeExpr.Conforms, Value.array.injEq, exists_eq_left'] at conforms
          have each : ∀ type ∈ List.replicate items.length element, type.UpheldIfCovered :=
            List.forall_mem_replicate.mpr (Or.inr ih)
          have upheld := allUpheld_of_allReplace each honours
            ((allConform_replicate_iff element items).mpr conforms) replace pledged
          rw [← replace.length_eq, allUpheld_replicate_iff] at upheld
          simp only [TypeExpr.Upheld]
          exact ⟨results, rfl, upheld⟩
  | tuple elements ih =>
      intro pledges store path value result parts honours conforms replaces pledged
      cases replaces with
      | @tuple _ _ items results _ replace =>
          simp only [TypeExpr.Conforms, Value.array.injEq, exists_eq_left'] at conforms
          simp only [TypeExpr.Upheld]
          exact ⟨results, rfl, allUpheld_of_allReplace ih honours conforms replace pledged⟩
  | promise inner ih =>
      intro pledges store path value result parts honours _ replaces pledged
      cases replaces with
      | promise promise =>
          have pledgedInner : pledges promise inner := pledged _ List.mem_cons_self
          simp only [TypeExpr.Upheld]
          refine ⟨promise, rfl, honours.known pledgedInner, ?_⟩
          intro later session resolution resolved
          rcases (Store.keepsPledges_passage.session session).2 pledges honours with
            ⟨more, kept, _, honoursLater⟩
          rw [Store.settlement?_eq_some_iff] at resolved
          rcases honoursLater.resolved (kept _ _ pledgedInner) resolved with
            ⟨_, _, _, conforms, replaces, covered⟩
          exact ih honoursLater conforms replaces covered
  | function signature =>
      intro pledges store path value result parts _ conforms replaces _
      cases replaces
      simpa [TypeExpr.Upheld, TypeExpr.Conforms] using conforms

/-- The type is upheld for whatever a check against it passes on. -/
theorem TypeExpr.PassesOn.upheld {type : TypeExpr} {value result : Value} {path : IssuePath}
    {store later : Store} (conforms : type.Conforms value)
    (passesOn : type.PassesOn value path store result later) : type.Upheld result later := by
  rcases passesOn.covered conforms (fun _ _ _ => id) with
    ⟨_, _, _, conforms, replaces, offered⟩
  exact type.upheldIfCovered (Store.honours_offers later) conforms replaces offered

mutual

/-- A value for which the type is upheld conforms to it. -/
theorem TypeExpr.conforms_of_upheld (type : TypeExpr) {value : Value} {store : Store}
    (upheld : type.Upheld value store) : type.Conforms value := by
  cases type with
  | primitive kind => simpa [TypeExpr.Upheld, TypeExpr.Conforms] using upheld
  | array element =>
      simp only [TypeExpr.Upheld] at upheld
      rcases upheld with ⟨items, rfl, each⟩
      simp only [TypeExpr.Conforms]
      refine ⟨items, rfl, ?_⟩
      intro item member
      exact TypeExpr.conforms_of_upheld element (each item member)
  | tuple elements =>
      simp only [TypeExpr.Upheld] at upheld
      rcases upheld with ⟨items, rfl, each⟩
      simp only [TypeExpr.Conforms]
      exact ⟨items, rfl, TypeExpr.allConform_of_allUpheld elements each⟩
  | promise inner => simp [TypeExpr.Conforms]
  | function signature => simpa [TypeExpr.Upheld, TypeExpr.Conforms] using upheld
termination_by structural type

theorem TypeExpr.allConform_of_allUpheld (types : List TypeExpr) {items : List Value}
    {store : Store} (upheld : TypeExpr.AllUpheld types items store) :
    TypeExpr.AllConform types items := by
  cases types with
  | nil =>
      cases items with
      | nil => simp [TypeExpr.AllConform]
      | cons item items => simp [TypeExpr.AllUpheld] at upheld
  | cons type types =>
      cases items with
      | nil => simp [TypeExpr.AllUpheld] at upheld
      | cons item items =>
          simp only [TypeExpr.AllUpheld] at upheld
          simp only [TypeExpr.AllConform]
          exact ⟨TypeExpr.conforms_of_upheld type upheld.1,
            TypeExpr.allConform_of_allUpheld types upheld.2⟩
termination_by structural types

end

end CallContracts
