import CallContracts.Proofs.AppliedContracts
import CallContracts.Proofs.Layers
import CallContracts.Proofs.RoundTrip

/-!
# Duck contracts

A duck contract is applied as a whole or not at all. It goes through the declared methods in order
and builds a layer over the candidate, but it reads methods from the candidate alone, and what it
does on the way only makes guards. So it fails with the first declared method at fault if there is
one, whatever else is declared, and otherwise ends with a layer in which the declared methods are
replaced and nothing else is changed.
-/

namespace CallContracts

/-! ## Names are declared once -/

namespace DuckContract

theorem nodup_names_of_declareAll {strict : Bool} {declared methods : List (String × Contract)}
    {declarations : List (String × String)} (distinct : (declared.map Prod.fst).Nodup)
    (declares : declareAll strict declared declarations = .ok methods) :
    (methods.map Prod.fst).Nodup := by
  induction declarations generalizing declared with
  | nil =>
      simp only [declareAll, Except.ok.injEq] at declares
      exact declares ▸ distinct
  | cons declaration declarations ih =>
      rcases declaration with ⟨name, text⟩
      simp only [declareAll] at declares
      split at declares
      · simp at declares
      · rename_i notDeclared
        split at declares
        · simp at declares
        · refine ih ?_ declares
          have fresh : name ∉ declared.map Prod.fst := by
            intro member
            apply notDeclared
            rcases List.mem_map.mp member with ⟨method, member, sameName⟩
            exact List.any_eq_true.mpr ⟨method, member, by simp [sameName]⟩
          simpa using List.Nodup.concat fresh distinct

theorem nodup_methodNames {declarations : List (String × String)} {strict : Bool}
    {contract : DuckContract} (made : ofTexts declarations strict = .ok contract) :
    contract.methodNames.Nodup := by
  unfold ofTexts at made
  cases declares : declareAll strict [] declarations with
  | error fault => simp [declares, Except.map] at made
  | ok methods =>
      simp only [declares, Except.map, Except.ok.injEq] at made
      subst made
      have none : ([] : List (String × Contract)).map Prod.fst = [] := rfl
      exact nodup_names_of_declareAll (none ▸ List.nodup_nil) declares

end DuckContract

/-! ## One declared method -/

namespace Object

/-- The declared name resolves to a function that is annotated with the expected shape, or that is
not annotated. -/
def Provides (candidate : Object) (store : Store) (declared : String × Contract) : Prop :=
  ∃ method, candidate.get? declared.1 = some (.function method) ∧
    store.Suits method declared.2.expected

/-- How a declared method may be at fault: there is no function under its name, or there is one that
is annotated with another shape. -/
inductive AtFault (candidate : Object) (store : Store) : String × Contract → Fault → Prop where
  | missing {name : String} {contract : Contract}
      (absent : ∀ method, candidate.get? name ≠ some (.function method)) :
      AtFault candidate store (name, contract) (.missingMethod name)
  | mismatched {name : String} {contract : Contract} {method : CallableId} {actual : Signature}
      (resolves : candidate.get? name = some (.function method))
      (annotated : store.declared? method = some actual)
      (differs : actual.withoutNames ≠ contract.expected.withoutNames) :
      AtFault candidate store (name, contract) (.signatureMismatch contract.expected actual)

variable {candidate : Object} {store later : Store} {declared : String × Contract}

theorem provides_or_atFault (candidate : Object) (store : Store) (declared : String × Contract) :
    candidate.Provides store declared ∨ ∃ fault, candidate.AtFault store declared fault := by
  by_cases found : ∃ method, candidate.get? declared.1 = some (.function method)
  · rcases found with ⟨method, resolves⟩
    by_cases suits : store.Suits method declared.2.expected
    · exact Or.inl ⟨method, resolves, suits⟩
    · simp only [Store.Suits, not_forall] at suits
      rcases suits with ⟨actual, annotated, differs⟩
      exact Or.inr ⟨_, .mismatched resolves annotated differs⟩
  · exact Or.inr ⟨_, .missing fun method resolves => found ⟨method, resolves⟩⟩

theorem Provides.of_adds (provides : candidate.Provides store declared)
    (adds : store.AddsFunctions later) : candidate.Provides later declared := by
  rcases provides with ⟨method, resolves, suits⟩
  exact ⟨method, resolves, adds.suits_iff.mpr suits⟩

theorem AtFault.of_adds {fault : Fault} (atFault : candidate.AtFault store declared fault)
    (adds : store.AddsFunctions later) : candidate.AtFault later declared fault := by
  cases atFault with
  | missing absent => exact .missing absent
  | mismatched resolves annotated differs =>
      exact .mismatched resolves ((adds.declared?_eq _).trans annotated) differs

end Object

namespace DuckContract

variable {candidate layer ducked : Object} {store later : Store} {declared : String × Contract}
  {methods : List (String × Contract)}

theorem applyAll_cons_of_provides (provides : candidate.Provides store declared)
    (methods : List (String × Contract)) (layer : Object) :
    ∃ checked after, store.OnlyMakes after ∧
      applyAll candidate (declared :: methods) layer store =
        applyAll candidate methods (layer.insert declared.1 (.function checked)) after := by
  rcases provides with ⟨method, resolves, suits⟩
  rcases Contract.exists_apply_of_suits suits with ⟨checked, after, applies⟩
  refine ⟨checked, after, Contract.onlyMakes_of_apply applies, ?_⟩
  simp only [applyAll, Object.method?_eq_some_iff.mpr resolves, applies]

theorem applyAll_cons_of_atFault {fault : Fault}
    (atFault : candidate.AtFault store declared fault) (methods : List (String × Contract))
    (layer : Object) : applyAll candidate (declared :: methods) layer store = .error fault := by
  cases atFault with
  | missing absent =>
      have noMethod := Option.eq_none_iff_forall_ne_some.mpr fun method found =>
        absent method (Object.method?_eq_some_iff.mp found)
      simp only [applyAll, noMethod]
  | mismatched resolves annotated differs =>
      have refuses := Contract.apply_eq_error_iff.mpr ⟨_, annotated, differs, rfl⟩
      simp only [applyAll, Object.method?_eq_some_iff.mpr resolves, refuses]

theorem applyAll_cons_eq_ok
    (applies : applyAll candidate (declared :: methods) layer store = .ok (ducked, later)) :
    ∃ method checked after, candidate.get? declared.1 = some (.function method) ∧
      declared.2.apply method store = .ok (checked, after) ∧
      applyAll candidate methods (layer.insert declared.1 (.function checked)) after =
        .ok (ducked, later) := by
  rcases candidate.provides_or_atFault store declared with provides | ⟨fault, atFault⟩
  · rcases provides with ⟨method, resolves, suits⟩
    rcases Contract.exists_apply_of_suits suits with ⟨checked, after, checks⟩
    simp only [applyAll, Object.method?_eq_some_iff.mpr resolves, checks] at applies
    exact ⟨method, checked, after, resolves, checks, applies⟩
  · rw [applyAll_cons_of_atFault atFault] at applies
    cases applies

/-! ## All declared methods -/

/-- The first declared method at fault, with its fault. -/
def FirstAtFault (candidate : Object) (store : Store) (methods : List (String × Contract))
    (fault : Fault) : Prop :=
  ∃ before declared after, methods = before ++ declared :: after ∧
    (∀ earlier ∈ before, candidate.Provides store earlier) ∧
    candidate.AtFault store declared fault

theorem provides_or_firstAtFault (candidate : Object) (store : Store)
    (methods : List (String × Contract)) :
    (∀ declared ∈ methods, candidate.Provides store declared) ∨
      ∃ fault, FirstAtFault candidate store methods fault := by
  induction methods with
  | nil => exact Or.inl (by simp)
  | cons declared methods ih =>
      rcases candidate.provides_or_atFault store declared with provides | ⟨fault, atFault⟩
      · rcases ih with all | ⟨fault, before, other, after, rfl, earlier, atFault⟩
        · exact Or.inl (List.forall_mem_cons.mpr ⟨provides, all⟩)
        · refine Or.inr ⟨fault, declared :: before, other, after, rfl, ?_, atFault⟩
          exact List.forall_mem_cons.mpr ⟨provides, earlier⟩
      · exact Or.inr ⟨fault, [], declared, methods, rfl, by simp, atFault⟩

theorem applyAll_of_provides (provides : ∀ declared ∈ methods, candidate.Provides store declared)
    (layer : Object) : ∃ ducked later, applyAll candidate methods layer store = .ok (ducked, later) := by
  induction methods generalizing layer store with
  | nil => exact ⟨layer, store, rfl⟩
  | cons declared methods ih =>
      rcases List.forall_mem_cons.mp provides with ⟨first, others⟩
      rcases applyAll_cons_of_provides first methods layer with ⟨checked, after, makes, applies⟩
      rw [applies]
      apply ih
      intro other member
      exact (others other member).of_adds makes.adds

theorem applyAll_of_firstAtFault {fault : Fault}
    (first : FirstAtFault candidate store methods fault) (layer : Object) :
    applyAll candidate methods layer store = .error fault := by
  rcases first with ⟨before, declared, after, rfl, earlier, atFault⟩
  induction before generalizing layer store with
  | nil => exact applyAll_cons_of_atFault atFault after layer
  | cons other before ih =>
      rcases List.forall_mem_cons.mp earlier with ⟨provides, others⟩
      rcases applyAll_cons_of_provides provides (before ++ declared :: after) layer with
        ⟨checked, reached, makes, applies⟩
      rw [List.cons_append, applies]
      apply ih
      · intro other member
        exact (others other member).of_adds makes.adds
      · exact atFault.of_adds makes.adds

/-- A method of the candidate and what stands in its place: what the contract for the method gave
when it was applied, at a time when nothing had happened but that functions had been made. -/
structure Replaces (candidate ducked : Object) (store later : Store) (declared : String × Contract)
    (method checked : CallableId) : Prop where
  resolves : candidate.get? declared.1 = some (.function method)
  shows : ducked.get? declared.1 = some (.function checked)
  applied : ∃ before after, store.OnlyMakes before ∧
    declared.2.apply method before = .ok (checked, after) ∧ after.OnlyMakes later

/-- What has become of a layer and a store when several methods, under different names, were put
under their contracts. -/
structure AppliesAll (candidate : Object) (methods : List (String × Contract))
    (layer : Object) (store : Store) (ducked : Object) (later : Store) : Prop where
  onlyMakes : store.OnlyMakes later
  delegate : ducked.delegate? = layer.delegate?
  own : ∀ key, key ∈ Members.keys ducked.own ↔
    key ∈ methods.map Prod.fst ∨ key ∈ Members.keys layer.own
  others : ∀ key, key ∉ methods.map Prod.fst → ducked.get? key = layer.get? key
  replaces : ∀ declared ∈ methods, ∃ method checked,
    Replaces candidate ducked store later declared method checked

theorem appliesAll_of_applyAll (distinct : (methods.map Prod.fst).Nodup)
    (applies : applyAll candidate methods layer store = .ok (ducked, later)) :
    AppliesAll candidate methods layer store ducked later := by
  induction methods generalizing layer store with
  | nil =>
      simp only [applyAll, Except.ok.injEq, Prod.mk.injEq] at applies
      rcases applies with ⟨rfl, rfl⟩
      exact ⟨.refl _, rfl, by simp, fun _ _ => rfl, by simp⟩
  | cons declared methods ih =>
      rcases applyAll_cons_eq_ok applies with ⟨method, checked, after, resolves, checks, behind⟩
      rw [List.map_cons, List.nodup_cons] at distinct
      have applied := ih distinct.2 behind
      have makes := Contract.onlyMakes_of_apply checks
      refine ⟨makes.trans applied.onlyMakes, ?_, ?_, ?_, ?_⟩
      · rw [applied.delegate, Object.delegate?_insert]
      · intro key
        rw [applied.own, List.map_cons, List.mem_cons, Object.own_insert, Members.mem_keys_iff,
          Members.mem_keys_iff, Members.find?_insert]
        by_cases same : declared.1 = key
        · simp [same]
        · have other : key ≠ declared.1 := fun equal => same equal.symm
          simp [same, other]
      · intro key undeclared
        rw [List.map_cons, List.mem_cons, not_or] at undeclared
        rw [applied.others key undeclared.2, Object.get?_insert, if_neg (Ne.symm undeclared.1)]
      · intro other member
        rcases List.mem_cons.mp member with rfl | member
        · -- the methods behind have other names, so this place in the layer stays as it is
          refine ⟨method, checked, resolves, ?_, store, after, .refl store, checks,
            applied.onlyMakes⟩
          rw [applied.others _ distinct.1, Object.get?_insert, if_pos rfl]
        · rcases applied.replaces other member with ⟨method, checked, replaces⟩
          rcases replaces.applied with ⟨before, reached, earlier, checks, further⟩
          exact ⟨method, checked, replaces.resolves, replaces.shows, before, reached,
            makes.trans earlier, checks, further⟩

end DuckContract

/-! ## Applying a duck contract -/

/-- What has become of a candidate that is under a duck contract. -/
structure DuckContract.Ducks (contract : DuckContract) (candidate : Object) (store : Store)
    (ducked : Object) (later : Store) : Prop where
  /-- The candidate stands below the new layer as it was. -/
  delegate : ducked.delegate? = some candidate
  keys : ducked.keys = candidate.keys
  own : ∀ key, key ∈ Members.keys ducked.own ↔ key ∈ contract.methodNames
  undeclared : ∀ key, key ∉ contract.methodNames → ducked.get? key = candidate.get? key
  /-- A declared method is replaced by what its contract gives: by itself if the contract trusts it,
  and by a new guard over it otherwise. -/
  declared : ∀ declared ∈ contract.methods, ∃ method checked,
    Replaces candidate ducked store later declared method checked ∧
    (declared.2.Trusts store method ∧ checked = method ∨
      ¬declared.2.Trusts store method ∧ store.Gains later checked ∧
        later.Guards declared.2.schema method checked)
  callable : ∀ key, (ducked.method? key).isSome = (candidate.method? key).isSome
  onlyMakes : store.OnlyMakes later
  annotations : ∀ id, later.declared? id = store.declared? id

namespace DuckContract

variable {candidate ducked : Object} {store later : Store} {declared : String × Contract}

theorem Replaces.trusted_or_guarded {method checked : CallableId}
    (replaces : Replaces candidate ducked store later declared method checked) :
    declared.2.Trusts store method ∧ checked = method ∨
      ¬declared.2.Trusts store method ∧ store.Gains later checked ∧
        later.Guards declared.2.schema method checked := by
  rcases replaces.applied with ⟨before, after, earlier, applies, behind⟩
  have sameTrust : declared.2.Trusts before method ↔ declared.2.Trusts store method := by
    simp only [Contract.Trusts, Store.DeclaredLike, earlier.adds.declared?_eq]
  cases Contract.makes_of_apply applies with
  | same trusts => exact Or.inl ⟨sameTrust.mp trusts, rfl⟩
  | guard doubts gains guards =>
      refine Or.inr ⟨fun trusts => doubts (sameTrust.mpr trusts), ?_, ?_⟩
      · exact gains.widen earlier.adds behind.adds
      · exact behind.adds.guards gains.known guards

theorem ducks_of_apply {contract : DuckContract} (distinct : contract.methodNames.Nodup)
    (applies : contract.apply candidate store = .ok (ducked, later)) :
    contract.Ducks candidate store ducked later := by
  have applied := appliesAll_of_applyAll distinct applies
  have replaced : ∀ key ∈ contract.methodNames, ∃ method checked,
      candidate.get? key = some (.function method) ∧
      ducked.get? key = some (.function checked) := by
    intro key member
    rcases List.mem_map.mp member with ⟨declared, isDeclared, rfl⟩
    rcases applied.replaces declared isDeclared with ⟨method, checked, replaces⟩
    exact ⟨method, checked, replaces.resolves, replaces.shows⟩
  have undeclared : ∀ key, key ∉ contract.methodNames → ducked.get? key = candidate.get? key := by
    intro key absent
    rw [applied.others key absent, Object.get?_layeredOver]
  refine ⟨applied.delegate, ?_, ?_, undeclared, ?_, ?_, applied.onlyMakes,
    applied.onlyMakes.adds.declared?_eq⟩
  · apply Object.keys_eq_of_isSome_get?
    intro key
    by_cases member : key ∈ contract.methodNames
    · rcases replaced key member with ⟨method, checked, below, above⟩
      simp [below, above]
    · rw [undeclared key member]
  · intro key
    rw [applied.own]
    simp [Object.layeredOver, Object.own, Members.keys, methodNames]
  · intro declared member
    rcases applied.replaces declared member with ⟨method, checked, replaces⟩
    exact ⟨method, checked, replaces, replaces.trusted_or_guarded⟩
  · intro key
    by_cases member : key ∈ contract.methodNames
    · rcases replaced key member with ⟨method, checked, below, above⟩
      rw [Object.method?_eq_some_iff.mpr below, Object.method?_eq_some_iff.mpr above]
      rfl
    · simp only [Object.method?, undeclared key member]

end DuckContract

/-- A duck contract is applied as a whole or not at all. It goes through exactly if every declared
name resolves to a function that suits. Otherwise it fails with the fault of the first declared
method at fault. Where it goes through, the result shows what the candidate shows apart from the
declared methods, which are replaced by what their contracts give. -/
theorem duckContract_applies_wholly_or_not {declarations : List (String × String)} {strict : Bool}
    {contract : DuckContract} (made : DuckContract.ofTexts declarations strict = .ok contract)
    (candidate : Object) (store : Store) :
    ((∃ ducked later, contract.apply candidate store = .ok (ducked, later)) ↔
      ∀ declared ∈ contract.methods, candidate.Provides store declared) ∧
    (∀ fault, contract.apply candidate store = .error fault ↔
      DuckContract.FirstAtFault candidate store contract.methods fault) ∧
    ∀ ducked later, contract.apply candidate store = .ok (ducked, later) →
      contract.Ducks candidate store ducked later := by
  have fails {fault : Fault}
      (first : DuckContract.FirstAtFault candidate store contract.methods fault) :
      contract.apply candidate store = .error fault :=
    DuckContract.applyAll_of_firstAtFault first _
  refine ⟨⟨?_, ?_⟩, fun fault => ⟨?_, fails⟩, ?_⟩
  · rintro ⟨ducked, later, applies⟩
    rcases DuckContract.provides_or_firstAtFault candidate store contract.methods with
      all | ⟨fault, first⟩
    · exact all
    · rw [fails first] at applies
      cases applies
  · intro provides
    exact DuckContract.applyAll_of_provides provides _
  · intro applies
    rcases DuckContract.provides_or_firstAtFault candidate store contract.methods with
      all | ⟨other, first⟩
    · rcases DuckContract.applyAll_of_provides all (Object.layeredOver candidate) with
        ⟨ducked, later, succeeds⟩
      rw [DuckContract.apply, succeeds] at applies
      cases applies
    · rw [fails first, Except.error.injEq] at applies
      exact applies ▸ first
  · intro ducked later applies
    exact DuckContract.ducks_of_apply (DuckContract.nodup_methodNames made) applies

/-- A candidate of two layers, of which the lower one shows `foo` with an annotation of the expected
shape and the upper one shows `bar` without annotation. The empty object lacks `foo` first. -/
theorem duckContract_applies_wholly_or_not_of_layers :
    ∃ contract : DuckContract,
      DuckContract.ofTexts [("foo", "(i: number) => number"), ("bar", "() => void")] false =
        .ok contract ∧
      let foo := Store.empty.newCallable (some "foo") fun arguments =>
        .finish (.ok (arguments.headD .undefined))
      let bar := foo.2.newCallable none fun _ => .finish (.ok .undefined)
      let store := bar.2.annotate foo.1
        ⟨false, [⟨some "n", false, .primitive .number⟩], .primitive .number⟩
      let below := (Object.empty.insert "foo" (.function foo.1)).insert "label" (.string "duck")
      let candidate := (Object.layeredOver below).insert "bar" (.function bar.1)
      (∃ ducked later, contract.apply candidate store = .ok (ducked, later) ∧
        contract.Ducks candidate store ducked later) ∧
      contract.apply Object.empty store = .error (.missingMethod "foo") := by
  have fooWritten : Signature.text ⟨false, [⟨some "i", false, .primitive .number⟩],
      .primitive .number⟩ = "(i: number) => number" := by decide +kernel
  have barWritten : Signature.text ⟨false, [], .primitive .void⟩ = "() => void" := by decide +kernel
  have fooParses := fooWritten ▸ Signature.parse_text (by decide)
  have barParses := barWritten ▸ Signature.parse_text (by decide)
  have made : DuckContract.ofTexts
      [("foo", "(i: number) => number"), ("bar", "() => void")] false = .ok
        ⟨[("foo", ⟨⟨⟨false, [⟨some "i", false, .primitive .number⟩], .primitive .number⟩,
            ⟨[⟨.number, false⟩]⟩, .number⟩, false⟩),
          ("bar", ⟨⟨⟨false, [], .primitive .void⟩, ⟨[]⟩, .void⟩, false⟩)]⟩ := by
    simp only [DuckContract.ofTexts, DuckContract.declareAll, Contract.ofText, fooParses,
      barParses]
    rfl
  refine ⟨_, made, ?_⟩
  intro foo bar store below candidate
  refine ⟨?_, ?_⟩
  · rcases duckContract_applies_wholly_or_not made candidate store with ⟨goesThrough, _, ducks⟩
    have applies := goesThrough.mpr ?_
    · rcases applies with ⟨ducked, later, applies⟩
      exact ⟨ducked, later, applies, ducks ducked later applies⟩
    · intro declared member
      simp only [List.mem_cons, List.not_mem_nil, or_false] at member
      rcases member with rfl | rfl
      · refine ⟨foo.1, rfl, ?_⟩
        intro actual annotated
        cases annotated
        rfl
      · refine ⟨bar.1, rfl, ?_⟩
        intro actual annotated
        cases annotated
  · apply ((duckContract_applies_wholly_or_not made Object.empty store).2.1 _).mpr
    refine ⟨[], _, _, rfl, by simp, .missing ?_⟩
    intro method shown
    cases shown

end CallContracts
