import CallContracts.Proofs.ParameterOrder
import Mathlib

/-!
# Declaring the methods of a duck contract

A duck contract is built from declarations, a name and a text each. The loop over them keeps the
contracts made so far, one for each declaration behind it and under the same name. A declaration can
be at fault in three ways, of which the first that applies counts: its name has occurred before, its
text is no signature, or a parameter of the signature is out of order.

So either all declarations are without fault, and the contract lists their methods in order, or the
first one at fault decides, whatever stands behind it.
-/

namespace CallContracts

/-! ## The contract for a text -/

namespace Contract

/-- What comes of a text that a contract is to be made for. -/
inductive Reads (text : String) (strict : Bool) : Except Fault Contract → Prop where
  | made {contract : Contract} (spells : Signature.parse text = .ok contract.expected)
      (inOrder : Parameter.InOrder contract.expected.parameters)
      (asks : ofSignature contract.expected strict = .ok contract) :
      Reads text strict (.ok contract)
  | malformed {cause : SyntaxFault} (fails : Signature.parse text = .error cause) :
      Reads text strict (.error (.malformedSignature cause))
  | misordered {signature : Signature} {index : Nat}
      (spells : Signature.parse text = .ok signature)
      (least : IsLeast {index | Parameter.IsMisplaced signature.parameters index} index) :
      Reads text strict (.error (.parameterOrder index))

theorem reads (text : String) (strict : Bool) : Reads text strict (ofText text strict) := by
  unfold ofText
  cases parses : Signature.parse text with
  | error cause => exact .malformed parses
  | ok signature =>
      change Reads text strict (ofSignature signature strict)
      have verdict := map_ofSignature signature strict
      rw [FunctionSchema.map_signature_compile] at verdict
      cases order : Parameter.checkOrder signature.parameters with
      | error fault =>
          rcases Parameter.checkOrder_eq_error_iff.mp order with ⟨index, rfl, least⟩
          cases outcome : ofSignature signature strict with
          | error fault =>
              simp only [outcome, order, Except.map, Except.error.injEq] at verdict
              exact verdict ▸ .misordered parses least
          | ok contract => simp [outcome, order, Except.map] at verdict
      | ok =>
          have inOrder := Parameter.checkOrder_eq_ok_iff.mp order
          cases outcome : ofSignature signature strict with
          | error fault => simp [outcome, order, Except.map] at verdict
          | ok contract =>
              simp only [outcome, order, Except.map, Except.ok.injEq, Prod.mk.injEq] at verdict
              rcases verdict with ⟨rfl, -⟩
              exact .made parses inOrder outcome

theorem Reads.unique {text : String} {strict : Bool} {first second : Except Fault Contract}
    (reads : Reads text strict first) (again : Reads text strict second) : first = second := by
  cases reads with
  | made spells inOrder asks =>
      cases again with
      | made spelled _ asked =>
          rw [spells, Except.ok.injEq] at spelled
          rw [← asks, ← asked, spelled]
      | malformed fails => simp [spells] at fails
      | misordered spelled least =>
          rw [spells, Except.ok.injEq] at spelled
          exact absurd least.1 (spelled ▸ inOrder.not_isMisplaced)
  | malformed fails =>
      cases again with
      | made spelled => simp [fails] at spelled
      | malformed failed =>
          rw [fails, Except.error.injEq] at failed
          rw [failed]
      | misordered spelled => simp [fails] at spelled
  | misordered spells least =>
      cases again with
      | made spelled inOrder =>
          rw [spells, Except.ok.injEq] at spelled
          exact absurd least.1 (spelled ▸ inOrder.not_isMisplaced)
      | malformed fails => simp [spells] at fails
      | misordered spelled leastToo =>
          rw [spells, Except.ok.injEq] at spelled
          rw [least.unique (spelled ▸ leastToo)]

/-- What comes of a text is what the text says. -/
theorem ofText_eq_iff {text : String} {strict : Bool} {outcome : Except Fault Contract} :
    ofText text strict = outcome ↔ Reads text strict outcome := by
  constructor
  · rintro rfl
    exact reads text strict
  · exact (reads text strict).unique

end Contract

namespace DuckContract

variable {strict : Bool} {fault : Fault} {earlier front declarations : List (String × String)}
  {declaration : String × String} {declared methods : List (String × Contract)}

/-! ## Declarations at fault -/

/-- The text of a declaration spells a signature with its parameters in order. -/
def IsReadable (declaration : String × String) : Prop :=
  ∃ signature, Signature.parse declaration.2 = .ok signature ∧
    Parameter.InOrder signature.parameters

/-- The declarations have different names, and all their texts can be read. -/
def Faultless (declarations : List (String × String)) : Prop :=
  (declarations.map Prod.fst).Nodup ∧ ∀ declaration ∈ declarations, IsReadable declaration

/-- How a declaration behind others may be at fault. A name that has occurred counts first, then a
text that is no signature, then the first parameter out of order. -/
inductive AtFaultBehind (earlier : List (String × String)) : String × String → Fault → Prop where
  | declaredTwice {name text : String} (again : name ∈ earlier.map Prod.fst) :
      AtFaultBehind earlier (name, text) (.invalidUsage (.methodDeclaredTwice name))
  | malformed {name text : String} {cause : SyntaxFault} (fresh : name ∉ earlier.map Prod.fst)
      (fails : Signature.parse text = .error cause) :
      AtFaultBehind earlier (name, text) (.malformedSignature cause)
  | misordered {name text : String} {signature : Signature} {index : Nat}
      (fresh : name ∉ earlier.map Prod.fst) (spells : Signature.parse text = .ok signature)
      (least : IsLeast {index | Parameter.IsMisplaced signature.parameters index} index) :
      AtFaultBehind earlier (name, text) (.parameterOrder index)

/-- The first declaration at fault, with its fault. -/
def FirstFaulty (declarations : List (String × String)) (fault : Fault) : Prop :=
  ∃ front declaration behind, declarations = front ++ declaration :: behind ∧
    Faultless front ∧ AtFaultBehind front declaration fault

theorem FirstFaulty.append (first : FirstFaulty declarations fault)
    (more : List (String × String)) : FirstFaulty (declarations ++ more) fault := by
  rcases first with ⟨front, declaration, behind, rfl, faultless, atFault⟩
  exact ⟨front, declaration, behind ++ more, by simp, faultless, atFault⟩

theorem Faultless.snoc (faultless : Faultless front) (fresh : declaration.1 ∉ front.map Prod.fst)
    (readable : IsReadable declaration) : Faultless (front ++ [declaration]) := by
  refine ⟨?_, List.forall_mem_append.mpr ⟨faultless.2, by simpa using readable⟩⟩
  simpa using List.Nodup.concat fresh faultless.1

theorem readable_or_atFault (earlier : List (String × String)) (declaration : String × String) :
    (declaration.1 ∉ earlier.map Prod.fst ∧ IsReadable declaration) ∨
      ∃ fault, AtFaultBehind earlier declaration fault := by
  rcases declaration with ⟨name, text⟩
  by_cases fresh : name ∉ earlier.map Prod.fst
  · have reads := Contract.reads text false
    generalize Contract.ofText text false = outcome at reads
    cases reads with
    | made spells inOrder => exact Or.inl ⟨fresh, _, spells, inOrder⟩
    | malformed fails => exact Or.inr ⟨_, .malformed fresh fails⟩
    | misordered spells least => exact Or.inr ⟨_, .misordered fresh spells least⟩
  · exact Or.inr ⟨_, .declaredTwice (not_not.mp fresh)⟩

theorem faultless_or_firstFaulty (declarations : List (String × String)) :
    Faultless declarations ∨ ∃ fault, FirstFaulty declarations fault := by
  induction declarations using List.reverseRecOn with
  | nil => exact Or.inl ⟨List.nodup_nil, by simp⟩
  | append_singleton front declaration ih =>
      rcases ih with faultless | ⟨fault, first⟩
      · rcases readable_or_atFault front declaration with ⟨fresh, readable⟩ | ⟨fault, atFault⟩
        · exact Or.inl (faultless.snoc fresh readable)
        · exact Or.inr ⟨fault, front, declaration, [], rfl, faultless, atFault⟩
      · exact Or.inr ⟨fault, first.append [declaration]⟩

/-! ## The loop -/

/-- The contract that stands for a declaration. -/
def Declares (strict : Bool) (declaration : String × String) (method : String × Contract) : Prop :=
  method.1 = declaration.1 ∧ Signature.parse declaration.2 = .ok method.2.expected ∧
    Contract.ofSignature method.2.expected strict = .ok method.2

theorem names_of_declares (declare : List.Forall₂ (Declares strict) declarations methods) :
    methods.map Prod.fst = declarations.map Prod.fst := by
  induction declare with
  | nil => rfl
  | cons declares _ ih => rw [List.map_cons, List.map_cons, declares.1, ih]

theorem any_name_eq (names : declared.map Prod.fst = earlier.map Prod.fst) (name : String) :
    (declared.any fun (other, _) => other = name) = decide (name ∈ earlier.map Prod.fst) := by
  rw [← names, Bool.eq_iff_iff, List.any_eq_true, decide_eq_true_iff, List.mem_map]
  simp only [decide_eq_true_eq]

theorem declareAll_cons_of_atFault (names : declared.map Prod.fst = earlier.map Prod.fst)
    (atFault : AtFaultBehind earlier declaration fault) (behind : List (String × String)) :
    declareAll strict declared (declaration :: behind) = .error fault := by
  cases atFault with
  | declaredTwice again => simp only [declareAll, any_name_eq names, again, decide_true, if_true]
  | @malformed name text cause fresh fails =>
      have read : Contract.ofText text strict = .error (.malformedSignature cause) :=
        Contract.ofText_eq_iff.mpr (.malformed fails)
      simp only [declareAll, any_name_eq names, fresh, decide_false, Bool.false_eq_true, if_false,
        read]
  | @misordered name text signature index fresh spells least =>
      have read : Contract.ofText text strict = .error (.parameterOrder index) :=
        Contract.ofText_eq_iff.mpr (.misordered spells least)
      simp only [declareAll, any_name_eq names, fresh, decide_false, Bool.false_eq_true, if_false,
        read]

theorem declareAll_cons_of_readable (strict : Bool)
    (names : declared.map Prod.fst = earlier.map Prod.fst)
    (fresh : declaration.1 ∉ earlier.map Prod.fst) (readable : IsReadable declaration)
    (behind : List (String × String)) :
    ∃ method, Declares strict declaration method ∧
      declareAll strict declared (declaration :: behind) =
        declareAll strict (declared ++ [method]) behind := by
  rcases declaration with ⟨name, text⟩
  rcases readable with ⟨signature, spells, inOrder⟩
  have reads := Contract.reads text strict
  cases read : Contract.ofText text strict with
  | error fault =>
      rw [read] at reads
      cases reads with
      | malformed fails => simp [spells] at fails
      | misordered spelled least =>
          rw [spells, Except.ok.injEq] at spelled
          exact absurd least.1 (spelled ▸ inOrder.not_isMisplaced)
  | ok contract =>
      rw [read] at reads
      cases reads with
      | made spelled _ asks =>
          refine ⟨(name, contract), ⟨rfl, spelled, asks⟩, ?_⟩
          simp only [declareAll, any_name_eq names, fresh, decide_false, Bool.false_eq_true,
            if_false, read]

/-- Behind declarations without fault the loop has one contract more for each of them. -/
theorem declareAll_append (strict : Bool) (declared : List (String × Contract))
    (earlier front behind : List (String × String))
    (names : declared.map Prod.fst = earlier.map Prod.fst)
    (faultless : Faultless (earlier ++ front)) :
    ∃ methods, List.Forall₂ (Declares strict) front methods ∧
      declareAll strict declared (front ++ behind) =
        declareAll strict (declared ++ methods) behind := by
  induction front generalizing earlier declared with
  | nil => exact ⟨[], .nil, by simp⟩
  | cons declaration front ih =>
      have fresh : declaration.1 ∉ earlier.map Prod.fst := by
        have distinct := faultless.1
        rw [List.map_append, List.map_cons, List.nodup_middle, List.nodup_cons] at distinct
        exact fun member => distinct.1 (List.mem_append_left _ member)
      have readable := faultless.2 declaration (by simp)
      rcases declareAll_cons_of_readable strict names fresh readable (front ++ behind)
        with ⟨method, declares, continues⟩
      have longer : earlier ++ declaration :: front = earlier ++ [declaration] ++ front := by simp
      rcases ih (declared ++ [method]) (earlier ++ [declaration]) (by simp [names, declares.1])
        (longer ▸ faultless) with ⟨methods, declare, ends⟩
      refine ⟨method :: methods, .cons declares declare, ?_⟩
      rw [List.cons_append, continues, ends]
      simp

theorem ofTexts_of_faultless (faultless : Faultless declarations) (strict : Bool) :
    ∃ methods, List.Forall₂ (Declares strict) declarations methods ∧
      ofTexts declarations strict = .ok ⟨methods⟩ := by
  rcases declareAll_append strict [] [] declarations [] rfl faultless with
    ⟨methods, declare, ends⟩
  rw [List.append_nil, List.nil_append] at ends
  refine ⟨methods, declare, ?_⟩
  rw [ofTexts, ends]
  rfl

theorem ofTexts_of_firstFaulty (first : FirstFaulty declarations fault) (strict : Bool) :
    ofTexts declarations strict = .error fault := by
  rcases first with ⟨front, declaration, behind, rfl, faultless, atFault⟩
  rcases declareAll_append strict [] [] front (declaration :: behind) rfl faultless with
    ⟨methods, declare, ends⟩
  rw [ofTexts, ends, List.nil_append,
    declareAll_cons_of_atFault (names_of_declares declare) atFault]
  rfl

theorem ofTexts_eq_error_iff :
    ofTexts declarations strict = .error fault ↔ FirstFaulty declarations fault := by
  constructor
  · intro fails
    rcases faultless_or_firstFaulty declarations with faultless | ⟨other, first⟩
    · rcases ofTexts_of_faultless faultless strict with ⟨methods, -, made⟩
      simp [made] at fails
    · rw [ofTexts_of_firstFaulty first, Except.error.injEq] at fails
      exact fails ▸ first
  · exact fun first => ofTexts_of_firstFaulty first strict

theorem faultless_and_declares_of_ofTexts {contract : DuckContract}
    (made : ofTexts declarations strict = .ok contract) :
    Faultless declarations ∧ List.Forall₂ (Declares strict) declarations contract.methods := by
  rcases faultless_or_firstFaulty declarations with faultless | ⟨fault, first⟩
  · rcases ofTexts_of_faultless faultless strict with ⟨methods, declare, same⟩
    rw [made, Except.ok.injEq] at same
    exact ⟨faultless, same ▸ declare⟩
  · simp [ofTexts_of_firstFaulty first] at made

/-- A duck contract is made exactly if the names are different and every text spells a signature
with its parameters in order. It lists the methods as they were declared, each with the signature
that its own text spells. Otherwise the first declaration at fault says why not, and nothing behind
it matters. -/
theorem duck_declarations_decided_by_first_fault (declarations : List (String × String))
    (strict : Bool) :
    ((∃ contract, ofTexts declarations strict = .ok contract) ↔ Faultless declarations) ∧
    (∀ contract, ofTexts declarations strict = .ok contract →
      contract.methodNames = declarations.map Prod.fst ∧
      List.Forall₂ (Declares strict) declarations contract.methods) ∧
    (∀ fault, ofTexts declarations strict = .error fault ↔ FirstFaulty declarations fault) ∧
    ∀ fault, ofTexts declarations strict = .error fault →
      ∀ behind, ofTexts (declarations ++ behind) strict = .error fault := by
  refine ⟨⟨?_, ?_⟩, ?_, fun fault => ofTexts_eq_error_iff, ?_⟩
  · rintro ⟨contract, made⟩
    exact (faultless_and_declares_of_ofTexts made).1
  · intro faultless
    rcases ofTexts_of_faultless faultless strict with ⟨methods, -, made⟩
    exact ⟨⟨methods⟩, made⟩
  · intro contract made
    have declare := (faultless_and_declares_of_ofTexts made).2
    exact ⟨names_of_declares declare, declare⟩
  · intro fault fails behind
    exact ofTexts_of_firstFaulty ((ofTexts_eq_error_iff.mp fails).append behind) strict

/-- The second declaration has its parameters out of order, and the third repeats a name with a text
that is no signature; whichever of them comes first counts. -/
theorem duck_declarations_decided_by_first_fault_of_repeated :
    let walk := ("walk", "(to: [number, number])=>void")
    let quack := ("quack", "(loud?: boolean, times: number) => void")
    let again := ("walk", "back")
    (∃ contract, ofTexts [walk] true = .ok contract ∧ contract.methodNames = ["walk"]) ∧
      ofTexts [walk, quack] true = .error (.parameterOrder 1) ∧
      ofTexts [walk, quack, again] true = .error (.parameterOrder 1) ∧
      ofTexts [walk, again, quack] true = .error (.invalidUsage (.methodDeclaredTwice "walk")) := by
  intro walk quack again
  have walkSpells : Signature.parse walk.2 =
      .ok ⟨false, [⟨some "to", false, .tuple [.primitive .number, .primitive .number]⟩],
        .primitive .void⟩ := by cbv
  have quackSpells : Signature.parse quack.2 =
      .ok ⟨false, [⟨some "loud", true, .primitive .boolean⟩,
        ⟨some "times", false, .primitive .number⟩], .primitive .void⟩ := by cbv
  have walkReadable : IsReadable walk :=
    ⟨_, walkSpells, Parameter.checkOrder_eq_ok_iff.mp rfl⟩
  have faultless : Faultless [walk] := ⟨by simp, by simpa using walkReadable⟩
  have misordered : AtFaultBehind [walk] quack (.parameterOrder 1) := by
    rcases Parameter.checkOrder_eq_error_iff.mp (rfl : Parameter.checkOrder
      [⟨some "loud", true, .primitive .boolean⟩, ⟨some "times", false, .primitive .number⟩] =
        .error (.parameterOrder 1)) with ⟨index, same, least⟩
    cases same
    exact .misordered (by decide) quackSpells least
  rcases duck_declarations_decided_by_first_fault [walk] true with ⟨accepts, lists, -, -⟩
  rcases accepts.mpr faultless with ⟨contract, made⟩
  have fails := ((duck_declarations_decided_by_first_fault [walk, quack] true).2.2.1 _).mpr
    ⟨[walk], quack, [], rfl, faultless, misordered⟩
  refine ⟨⟨contract, made, (lists contract made).1⟩, fails, ?_, ?_⟩
  · exact (duck_declarations_decided_by_first_fault [walk, quack] true).2.2.2 _ fails [again]
  · exact ((duck_declarations_decided_by_first_fault [walk, again, quack] true).2.2.1 _).mpr
      ⟨[walk], again, [quack], rfl, faultless, .declaredTwice (by decide)⟩

end DuckContract

end CallContracts
