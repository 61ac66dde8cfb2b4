import CallContracts.CommandLine.Command
import CallContracts.Proofs.Settling

/-!
# Checking in two stages

Arguments are checked, and then what the check passed on is settled. For arguments without promises
of their own the two stages together accept what one check against the types without promises
accepts, and give back the very arguments. Otherwise they report some of the findings of that one
check: those of the first stage, or, if there are none, those of the second.
-/

namespace CallContracts

/-- How one check of `arguments` and a check with settling in two stages may end together. -/
inductive StagesAgree (arguments : List Value) :
    Option (Settlement × Store) → Option (Except Fault (List Value) × Store) → Prop where
  /-- Both accept, and both give back the very arguments. -/
  | accepted (left right : Store) :
      StagesAgree arguments (some (.ok (.array arguments), left)) (some (.ok arguments, right))
  /-- Both reject the arguments. The two stages report at least one and at most all of the findings
  of the one check, in its order. -/
  | rejected {all part : ValidationFailure} (left right : Store)
      (phase : part.phase = .arguments) (nonempty : part.issues ≠ [])
      (inOrder : (part.issues.map Issue.finding).Sublist (all.issues.map Issue.finding)) :
      StagesAgree arguments (some (.error (.invalid all), left))
        (some (.error (.invalid part), right))

namespace ParameterSchema

theorem promiseDepths_demands_le (slots : List Slot) (arguments : List Value) :
    Schema.promiseDepths (demands slots arguments) ≤
      Schema.promiseDepths (slots.map Slot.schema) := by
  induction slots generalizing arguments with
  | nil => simp [demands, Schema.promiseDepths]
  | cons slot slots ih =>
      cases arguments with
      | nil => simp [demands, Schema.promiseDepths]
      | cons argument arguments =>
          have first : (slot.demand argument).promiseDepth ≤ slot.schema.promiseDepth := by
            unfold Slot.demand
            split
            · simp [Schema.promiseDepth]
            · exact Nat.le_refl _
          have others := ih arguments
          simp only [demands] at others
          simp only [demands, List.zipWith_cons_cons, List.map_cons, Schema.promiseDepths]
          omega

/-- Settling what a check passed on gives back the arguments, or some of the findings of the check
without promises. -/
theorem settle_delivery {schema : ParameterSchema} {arguments : List Value} {depth : Nat}
    (free : Value.arePromiseFree arguments) (accepted : schema.issues arguments = [])
    (deep : Schema.promiseDepths (schema.slots.map Slot.schema) + 1 ≤ depth) (store : Store) :
    ∃ settled later,
      Value.settleList (Store.follow depth) (schema.delivery arguments store.promises.size).1
        (store.deferAll (schema.delivery arguments store.promises.size).2) =
        some (.ok settled, later) ∧
      settled.Agrees arguments (schema.erasePromises.issues arguments) := by
  have noneCounted : schema.erasePromises.countIssues arguments = [] := by
    rw [issues_eq, List.append_eq_nil_iff] at accepted
    have findings := schema.findings_countIssues_erasePromises arguments
    rw [accepted.2] at findings
    simpa using findings
  rw [issues_eq, List.append_eq_nil_iff] at accepted
  have deepDemands : Schema.promiseDepths (demands schema.slots arguments) + 1 ≤ depth := by
    have bound := promiseDepths_demands_le schema.slots arguments
    omega
  rcases Schema.settleList_deliveryElements_of (fun demand _ => demand.settlesDelivery) free
    accepted.1 deepDemands (Store.awaits_deferAll store _) with
    ⟨settled, later, walk, agrees, _⟩
  refine ⟨settled, later, walk, ?_⟩
  rw [issues_eq, noneCounted, List.append_nil]
  simpa only [erasePromises, demands_map_erasePromises] using agrees

theorem stagesAgree {schema : ParameterSchema} {arguments : List Value} {depth : Nat}
    (free : Value.arePromiseFree arguments)
    (deep : Schema.promiseDepths (schema.slots.map Slot.schema) + 1 ≤ depth) (store : Store) :
    StagesAgree arguments (store.run depth (schema.erasePromises.check arguments))
      (store.checkAndSettle depth schema arguments) := by
  have reachable : ∃ less, depth = less + 1 := ⟨depth - 1, by omega⟩
  rcases reachable with ⟨less, rfl⟩
  have part := schema.findings_sublist arguments
  simp only [Store.checkAndSettle, run_check, delivery_erasePromises, Store.deferAll_nil]
  cases wrong : schema.issues arguments with
  | cons first others =>
      rw [wrong] at part
      cases wrongErased : schema.erasePromises.issues arguments with
      | nil => simp [wrongErased] at part
      | cons firstErased othersErased =>
          rw [wrongErased] at part
          exact .rejected _ _ rfl (List.cons_ne_nil _ _) part
  | nil =>
      rcases settle_delivery free wrong deep store with ⟨settled, later, walk, agrees⟩
      simp only [Store.settle, walk]
      cases settled with
      | ok settled =>
          rcases agrees with ⟨rfl, accepted⟩
          rw [accepted]
          exact .accepted _ _
      | error failure =>
          cases wrongErased : schema.erasePromises.issues arguments with
          | nil => simp [wrongErased, Settled.Agrees, ValidationFailure.issues] at agrees
          | cons firstErased othersErased =>
              rw [wrongErased] at agrees
              exact .rejected _ _ rfl (List.cons_ne_nil _ _) agrees

/-- The depth that the validation of arguments allows is enough. -/
theorem checkAndSettle_eq_checkSettled {schema : ParameterSchema} {arguments : List Value}
    (free : Value.arePromiseFree arguments) :
    ∃ later,
      Store.empty.checkAndSettle (Schema.promiseDepths (schema.slots.map Slot.schema) + 1) schema
        arguments = some (schema.checkSettled arguments, later) := by
  have agree : StagesAgree arguments _ (Store.empty.checkAndSettle _ schema arguments) :=
    stagesAgree free (Nat.le_refl _) Store.empty
  simp only [checkSettled]
  generalize Store.empty.run _ (schema.erasePromises.check arguments) = once at agree
  generalize Store.empty.checkAndSettle _ schema arguments = stages at agree
  cases agree with
  | accepted left right => exact ⟨right, rfl⟩
  | rejected left right phase nonempty inOrder => exact ⟨right, rfl⟩

end ParameterSchema

/-- Checking arguments without promises of their own and then settling them accepts what one check
against the types without promises accepts and gives back the very arguments; otherwise it reports
some of the findings of that check. There always is a result, and never any other failure. The
validation of arguments by the program is the case of a fresh store. -/
theorem checkAndSettle_agrees_with_erased_check (parameters : List Parameter)
    {schema : ParameterSchema} (compiles : ParameterSchema.compile parameters = .ok schema) :
    ∃ erased,
      ParameterSchema.compile (parameters.map Parameter.erasePromises) = .ok erased ∧
      ∀ arguments : List Value, Value.arePromiseFree arguments →
        (∀ (store : Store) (depth : Nat),
          Schema.promiseDepths (schema.slots.map Slot.schema) + 1 ≤ depth →
          StagesAgree arguments (store.run depth (erased.check arguments))
            (store.checkAndSettle depth schema arguments)) ∧
        ∃ later,
          StagesAgree arguments (Store.empty.run 1 (erased.check arguments))
            (some (schema.checkSettled arguments, later)) := by
  refine ⟨schema.erasePromises, ParameterSchema.compile_map_erasePromises compiles, ?_⟩
  intro arguments free
  refine ⟨fun store depth deep => ParameterSchema.stagesAgree free deep store, ?_⟩
  rcases ParameterSchema.checkAndSettle_eq_checkSettled free with ⟨later, settles⟩
  have once : Store.empty.run 1 (schema.erasePromises.check arguments) =
      Store.empty.run (Schema.promiseDepths (schema.slots.map Slot.schema) + 1)
        (schema.erasePromises.check arguments) := by
    rw [ParameterSchema.run_check, ParameterSchema.run_check]
  refine ⟨later, ?_⟩
  rw [once, ← settles]
  exact ParameterSchema.stagesAgree free (Nat.le_refl _) Store.empty

/-- The two stages of `(p: Promise<boolean>, xs: Promise<string>[])` over a text and an array of a
text and `null`: the text and the `null` are found in the second stage. -/
theorem checkAndSettle_agrees_of_texts :
    ParameterSchema.compile [⟨some "p", false, .promise (.primitive .boolean)⟩,
      ⟨some "xs", false, .array (.promise (.primitive .string))⟩] =
      .ok ⟨[⟨.promise .boolean, false⟩, ⟨.array (.promise .string), false⟩]⟩ ∧
    Value.arePromiseFree [.string "x", .array [.string "ok", .null]] ∧
    ∃ erased,
      ParameterSchema.compile [⟨some "p", false, .primitive .boolean⟩,
        ⟨some "xs", false, .array (.primitive .string)⟩] = .ok erased ∧
      StagesAgree [.string "x", .array [.string "ok", .null]]
        (Store.empty.run 2 (erased.check [.string "x", .array [.string "ok", .null]]))
        (Store.empty.checkAndSettle 2
          ⟨[⟨.promise .boolean, false⟩, ⟨.array (.promise .string), false⟩]⟩
          [.string "x", .array [.string "ok", .null]]) := by
  have compiles : ParameterSchema.compile [⟨some "p", false, .promise (.primitive .boolean)⟩,
      ⟨some "xs", false, .array (.promise (.primitive .string))⟩] =
      .ok ⟨[⟨.promise .boolean, false⟩, ⟨.array (.promise .string), false⟩]⟩ := rfl
  have free : Value.arePromiseFree [.string "x", .array [.string "ok", .null]] := rfl
  rcases checkAndSettle_agrees_with_erased_check _ compiles with ⟨erased, erasedCompiles, agree⟩
  exact ⟨compiles, free, erased, erasedCompiles, (agree _ free).1 Store.empty 2 (by decide)⟩

end CallContracts
