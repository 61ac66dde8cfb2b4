import CallContracts.Proofs.Enforcement
import CallContracts.Proofs.Offenders

/-!
# Checking an argument list

An argument list is checked slot by slot, and either the slots or the arguments may run out first.
In terms of the signature: since the required parameters come first, a list is accepted exactly if
it is as long as the required parameters at least and all parameters at most, and each argument is
admitted by its parameter. The arguments are then passed on one after another, none added and none
dropped.

Otherwise everything wrong is reported in the order of the positions: what is wrong with the given
arguments, the required ones that are missing, and that there are too many of them.
-/

namespace CallContracts

/-! ## Parameters in order -/

namespace Parameter

theorem misplaced?_behind_optional (index : Nat) (parameters : List Parameter) :
    misplaced? true index parameters = none ↔
      ∀ parameter ∈ parameters, parameter.optional = true := by
  induction parameters generalizing index with
  | nil => simp [misplaced?]
  | cons parameter parameters ih =>
      cases optional : parameter.optional <;> simp [misplaced?, optional, ih]

/-- Nothing is misplaced exactly if the required parameters stand before the optional ones. -/
theorem misplaced?_eq_none_iff (index : Nat) (parameters : List Parameter) :
    misplaced? false index parameters = none ↔
      ∃ required others, parameters = required ++ others ∧
        (∀ parameter ∈ required, parameter.optional = false) ∧
        ∀ parameter ∈ others, parameter.optional = true := by
  induction parameters generalizing index with
  | nil => simp [misplaced?]
  | cons parameter parameters ih =>
      cases optional : parameter.optional with
      | true =>
          simp only [misplaced?, optional, Bool.not_true, Bool.false_and, Bool.or_true,
            Bool.false_eq_true, if_false, misplaced?_behind_optional]
          constructor
          · intro others
            exact ⟨[], parameter :: parameters, rfl, by simp, by simpa [optional] using others⟩
          · rintro ⟨_ | ⟨first, required⟩, others, split, isRequired, isOptional⟩
            · simp only [List.nil_append] at split
              subst split
              exact fun other member => isOptional other (List.mem_cons_of_mem _ member)
            · simp only [List.cons_append, List.cons.injEq] at split
              have notOptional := isRequired first List.mem_cons_self
              rw [← split.1, optional] at notOptional
              cases notOptional
      | false =>
          simp only [misplaced?, optional, Bool.not_false, Bool.and_false, Bool.or_self,
            Bool.false_eq_true, if_false, ih]
          constructor
          · rintro ⟨required, others, rfl, isRequired, isOptional⟩
            exact ⟨parameter :: required, others, rfl, by simpa [optional] using isRequired,
              isOptional⟩
          · rintro ⟨_ | ⟨first, required⟩, others, split, isRequired, isOptional⟩
            · simp only [List.nil_append] at split
              have isOptional := isOptional parameter (by simp [← split])
              rw [optional] at isOptional
              cases isOptional
            · simp only [List.cons_append, List.cons.injEq] at split
              exact ⟨required, others, split.2,
                fun other member => isRequired other (List.mem_cons_of_mem _ member), isOptional⟩

/-- If the required parameters stand in front, their count says where they end. -/
theorem countP_required_append {required others : List Parameter}
    (isRequired : ∀ parameter ∈ required, parameter.optional = false)
    (isOptional : ∀ parameter ∈ others, parameter.optional = true) :
    ((required ++ others).countP fun parameter => !parameter.optional) = required.length := by
  have countRequired : (required.countP fun parameter => !parameter.optional) = required.length :=
    List.countP_eq_length.mpr fun parameter member => by simp [isRequired parameter member]
  have countOthers : (others.countP fun parameter => !parameter.optional) = 0 :=
    List.countP_eq_zero.mpr fun parameter member => by simp [isOptional parameter member]
  rw [List.countP_append, countRequired, countOthers, Nat.add_zero]

/-! ## What is wrong with an argument list -/

/-- What is wrong with the argument at a position. Nothing is if it is left out of an optional
place by `undefined`. -/
def argumentIssues (parameter : Parameter) (argument : Value) (position : Nat) : List Issue :=
  match parameter.optional, argument with
  | true, .undefined => []
  | _, argument => parameter.type.schema.issues argument (IssuePath.arguments.push position)

/-- The report of a required argument that is missing at a position. -/
def missing (parameter : Parameter) (position : Nat) : Issue :=
  ⟨IssuePath.arguments.push position, parameter.type.schema.describe, "nothing"⟩

theorem issues_demand (parameter : Parameter) (argument : Value) (position : Nat) :
    (Slot.demand ⟨parameter.type.schema, parameter.optional⟩ argument).issues argument
        (IssuePath.arguments.push position) =
      parameter.argumentIssues argument position := by
  cases optional : parameter.optional with
  | false => simp [Slot.demand, argumentIssues, optional]
  | true =>
      cases argument <;> simp [Slot.demand, argumentIssues, optional, Schema.issues]

theorem argumentIssues_eq_nil_iff (parameter : Parameter) (argument : Value) (position : Nat) :
    parameter.argumentIssues argument position = [] ↔ parameter.Admits argument := by
  rw [← issues_demand, ParameterSchema.issues_demand_eq_nil_iff]

end Parameter

namespace Signature

/-- What is wrong with the arguments that have a parameter. -/
def givenIssues (signature : Signature) (arguments : List Value) : List Issue :=
  (signature.parameters.zip arguments).zipIdx.flatMap fun ((parameter, argument), position) =>
    parameter.argumentIssues argument position

/-- The required arguments that are missing behind the given ones. -/
def missingIssues (signature : Signature) (arguments : List Value) : List Issue :=
  (((signature.parameters.take signature.requiredArity).drop arguments.length).zipIdx
    arguments.length).map fun (parameter, position) => parameter.missing position

/-- That there are arguments without a parameter. -/
def surplusIssues (signature : Signature) (arguments : List Value) : List Issue :=
  if signature.arity < arguments.length then
    [⟨IssuePath.arguments.push signature.arity,
      "at most " ++ toString signature.arity ++ " arguments",
      toString arguments.length ++ " arguments"⟩]
  else []

/-- Everything wrong with an argument list. -/
def argumentListIssues (signature : Signature) (arguments : List Value) : List Issue :=
  signature.givenIssues arguments ++ signature.missingIssues arguments ++
    signature.surplusIssues arguments

end Signature

namespace ParameterSchema

/-- The slots of parameters. -/
abbrev slotsOf (parameters : List Parameter) : List Slot :=
  parameters.map fun parameter => ⟨parameter.type.schema, parameter.optional⟩

theorem slotIssues_of_required {parameters : List Parameter}
    (required : ∀ parameter ∈ parameters, parameter.optional = false) (position : Nat) :
    slotIssues (slotsOf parameters) position [] =
      (parameters.zipIdx position).map fun (parameter, position) => parameter.missing position := by
  induction parameters generalizing position with
  | nil => rfl
  | cons parameter parameters ih =>
      have others := ih (fun other member => required other (List.mem_cons_of_mem _ member))
      simp [slotIssues, required parameter List.mem_cons_self, others, Parameter.missing]

theorem slotIssues_of_optional {parameters : List Parameter}
    (optional : ∀ parameter ∈ parameters, parameter.optional = true) (position : Nat) :
    slotIssues (slotsOf parameters) position [] = [] := by
  induction parameters generalizing position with
  | nil => rfl
  | cons parameter parameters ih =>
      have others := ih (fun other member => optional other (List.mem_cons_of_mem _ member))
      simp [slotIssues, optional parameter List.mem_cons_self, others]

theorem slotIssues_append (slots others : List Slot) (position : Nat) :
    slotIssues (slots ++ others) position [] =
      slotIssues slots position [] ++ slotIssues others (position + slots.length) [] := by
  induction slots generalizing position with
  | nil => simp [slotIssues]
  | cons slot slots ih =>
      simp [slotIssues, ih, Nat.add_assoc, Nat.add_comm 1]

/-- The given arguments are judged one by one, and behind them the missing ones. -/
theorem slotIssues_slotsOf (parameters : List Parameter) (position : Nat)
    (arguments : List Value) :
    slotIssues (slotsOf parameters) position arguments =
      ((parameters.zip arguments).zipIdx position).flatMap
          (fun ((parameter, argument), position) => parameter.argumentIssues argument position) ++
        slotIssues (slotsOf (parameters.drop arguments.length)) (position + arguments.length)
          [] := by
  induction parameters generalizing position arguments with
  | nil => simp [slotIssues]
  | cons parameter parameters ih =>
      cases arguments with
      | nil => simp
      | cons argument arguments =>
          rw [slotsOf, List.map_cons, slotIssues_cons_cons, Parameter.issues_demand, ih]
          simp [Nat.add_assoc, Nat.add_comm 1]

/-- The issues of an argument list in terms of the signature. -/
theorem issues_eq_argumentListIssues {signature : Signature} {schema : ParameterSchema}
    (compiles : compile signature.parameters = .ok schema) (arguments : List Value) :
    schema.issues arguments = signature.argumentListIssues arguments := by
  rcases compile_eq_ok.mp compiles with ⟨inOrder, rfl⟩
  rcases (Parameter.misplaced?_eq_none_iff 0 _).mp inOrder with
    ⟨required, others, split, isRequired, isOptional⟩
  have arity : signature.requiredArity = required.length := by
    rw [Signature.requiredArity, split, Parameter.countP_required_append isRequired isOptional]
  have behindGiven : slotIssues (slotsOf (signature.parameters.drop arguments.length))
      (0 + arguments.length) [] = signature.missingIssues arguments := by
    rw [split, List.drop_append, slotsOf, List.map_append, slotIssues_append,
      slotIssues_of_required (fun parameter member =>
        isRequired parameter (List.mem_of_mem_drop member)),
      slotIssues_of_optional (fun parameter member =>
        isOptional parameter (List.mem_of_mem_drop member)),
      List.append_nil, Nat.zero_add, Signature.missingIssues, arity, split, List.take_left]
  rw [issues, slotIssues_slotsOf, behindGiven]
  simp only [List.length_map]
  rfl

end ParameterSchema

/-! ## Positions at fault -/

namespace Signature

/-- As many arguments as the required parameters at least and all parameters at most, each of them
admitted by its parameter. -/
structure Takes (signature : Signature) (arguments : List Value) : Prop where
  enough : signature.requiredArity ≤ arguments.length
  notTooMany : arguments.length ≤ signature.arity
  admitted : ∀ (position : Nat) (parameter : Parameter) (argument : Value),
    signature.parameters[position]? = some parameter →
    arguments[position]? = some argument → parameter.Admits argument

/-- An argument at the position is not admitted, a required one is missing there, or it is the first
one too many. -/
inductive FailsAt (signature : Signature) (arguments : List Value) (position : Nat) : Prop where
  | refused {parameter : Parameter} {argument : Value}
      (slot : signature.parameters[position]? = some parameter)
      (given : arguments[position]? = some argument) (refused : ¬parameter.Admits argument) :
      FailsAt signature arguments position
  | missing (behind : arguments.length ≤ position) (required : position < signature.requiredArity) :
      FailsAt signature arguments position
  | surplus (atEnd : position = signature.arity) (tooMany : signature.arity < arguments.length) :
      FailsAt signature arguments position

theorem requiredArity_le_arity (signature : Signature) :
    signature.requiredArity ≤ signature.arity :=
  List.countP_le_length

theorem takes_iff_forall_not_failsAt (signature : Signature) (arguments : List Value) :
    signature.Takes arguments ↔ ∀ position, ¬signature.FailsAt arguments position := by
  constructor
  · rintro ⟨enough, notTooMany, admitted⟩ position (⟨slot, given, refused⟩ | _ | _)
    · exact refused (admitted position _ _ slot given)
    · omega
    · omega
  · intro nowhere
    refine ⟨?_, ?_, ?_⟩
    · by_contra tooFew
      exact nowhere arguments.length (.missing (Nat.le_refl _) (by omega))
    · by_contra tooMany
      exact nowhere signature.arity (.surplus rfl (by omega))
    · intro position parameter argument slot given
      by_contra refused
      exact nowhere position (.refused slot given refused)

theorem mem_givenIssues_iff (signature : Signature) (arguments : List Value) (issue : Issue) :
    issue ∈ signature.givenIssues arguments ↔
      ∃ (position : Nat) (parameter : Parameter) (argument : Value),
        signature.parameters[position]? = some parameter ∧
        arguments[position]? = some argument ∧
        issue ∈ parameter.argumentIssues argument position := by
  simp only [givenIssues, List.mem_flatMap, Prod.exists, List.mk_mem_zipIdx_iff_getElem?,
    List.getElem?_zip_eq_some]
  constructor
  · rintro ⟨parameter, argument, position, ⟨slot, given⟩, member⟩
    exact ⟨position, parameter, argument, slot, given, member⟩
  · rintro ⟨position, parameter, argument, slot, given, member⟩
    exact ⟨parameter, argument, position, ⟨slot, given⟩, member⟩

theorem mem_missingIssues_iff (signature : Signature) (arguments : List Value) (issue : Issue) :
    issue ∈ signature.missingIssues arguments ↔
      ∃ (position : Nat) (parameter : Parameter), arguments.length ≤ position ∧
        position < signature.requiredArity ∧ signature.parameters[position]? = some parameter ∧
        issue = parameter.missing position := by
  simp only [missingIssues, List.mem_map, Prod.exists, List.mk_mem_zipIdx_iff_le_and_getElem?_sub,
    List.getElem?_drop, List.getElem?_take]
  constructor
  · rintro ⟨parameter, position, ⟨behind, slot⟩, rfl⟩
    rw [Nat.add_sub_cancel' behind] at slot
    split at slot
    · rename_i required
      exact ⟨position, parameter, behind, required, slot, rfl⟩
    · cases slot
  · rintro ⟨position, parameter, behind, required, slot, rfl⟩
    refine ⟨parameter, position, ⟨behind, ?_⟩, rfl⟩
    rw [Nat.add_sub_cancel' behind, if_pos required, slot]

theorem mem_surplusIssues_iff (signature : Signature) (arguments : List Value) (issue : Issue) :
    issue ∈ signature.surplusIssues arguments ↔
      signature.arity < arguments.length ∧
        issue = ⟨IssuePath.arguments.push signature.arity,
          "at most " ++ toString signature.arity ++ " arguments",
          toString arguments.length ++ " arguments"⟩ := by
  unfold surplusIssues
  split
  · rename_i tooMany
    simp [tooMany]
  · rename_i fits
    simp [fits]

end Signature

/-- The issue lies within the argument at the position. -/
def Issue.Concerns (issue : Issue) (position : Nat) : Prop :=
  ∃ further, issue.path = (IssuePath.arguments.push position).extend further

namespace Issue.Concerns

variable {issue other : Issue} {position : Nat}

theorem position? (concerns : issue.Concerns position) :
    issue.path.position? = some position := by
  rcases concerns with ⟨further, path⟩
  rw [path]
  rfl

theorem precedes {behind : Nat} (concerns : issue.Concerns position)
    (concernsOther : other.Concerns behind) (less : position < behind) : issue.Precedes other := by
  rcases concerns with ⟨further, path⟩
  rcases concernsOther with ⟨otherFurther, otherPath⟩
  exact ⟨[], position, behind, further, otherFurther, less, by rw [path]; rfl,
    by rw [otherPath]; rfl⟩

theorem of_mem_argumentIssues {parameter : Parameter} {argument : Value}
    (member : issue ∈ parameter.argumentIssues argument position) : issue.Concerns position := by
  rw [← Parameter.issues_demand] at member
  exact Schema.exists_extend_of_mem_issues member

theorem of_path (path : issue.path = IssuePath.arguments.push position) :
    issue.Concerns position :=
  ⟨[], by rw [path, IssuePath.extend_nil]⟩

end Issue.Concerns

namespace Signature

theorem pairwise_snd_zipIdx {Item : Type} (items : List Item) (start : Nat) :
    (items.zipIdx start).Pairwise fun earlier later => earlier.2 < later.2 := by
  have ascend : ((items.zipIdx start).map Prod.snd).Pairwise (· < ·) := by
    rw [List.zipIdx_map_snd]
    exact List.pairwise_lt_range' 1
  exact List.pairwise_map.mp ascend

/-- Reports within one argument come in the order of their places, and the arguments one after
another. -/
theorem pairwise_givenIssues (signature : Signature) (arguments : List Value) :
    (signature.givenIssues arguments).Pairwise Issue.Precedes := by
  rw [givenIssues, List.pairwise_flatMap]
  constructor
  · rintro ⟨⟨parameter, argument⟩, position⟩ _
    change (parameter.argumentIssues argument position).Pairwise Issue.Precedes
    rw [← Parameter.issues_demand]
    exact Schema.pairwise_issues _ argument _
  · refine (pairwise_snd_zipIdx _ 0).imp ?_
    intro earlier later less issue member other otherMember
    exact (Issue.Concerns.of_mem_argumentIssues member).precedes
      (Issue.Concerns.of_mem_argumentIssues otherMember) less

theorem pairwise_missingIssues (signature : Signature) (arguments : List Value) :
    (signature.missingIssues arguments).Pairwise Issue.Precedes := by
  rw [missingIssues, List.pairwise_map]
  refine (pairwise_snd_zipIdx _ arguments.length).imp ?_
  intro earlier later less
  exact Issue.Concerns.precedes (.of_path rfl) (.of_path rfl) less

/-- Everything wrong with an argument list comes in the order of the places. -/
theorem pairwise_argumentListIssues (signature : Signature) (arguments : List Value) :
    (signature.argumentListIssues arguments).Pairwise Issue.Precedes := by
  have within := signature.requiredArity_le_arity
  rw [argumentListIssues, List.pairwise_append, List.pairwise_append]
  refine ⟨⟨pairwise_givenIssues signature arguments, pairwise_missingIssues signature arguments,
    ?_⟩, ?_, ?_⟩
  · intro issue member other otherMember
    rcases (mem_givenIssues_iff signature arguments issue).mp member with
      ⟨position, parameter, argument, _, given, member⟩
    rcases (mem_missingIssues_iff signature arguments other).mp otherMember with
      ⟨behind, parameter, isBehind, _, _, rfl⟩
    have inRange := (List.getElem?_eq_some_iff.mp given).1
    exact (Issue.Concerns.of_mem_argumentIssues member).precedes (.of_path rfl) (by omega)
  · unfold surplusIssues
    split
    · exact List.pairwise_singleton _ _
    · exact List.Pairwise.nil
  · intro issue member other otherMember
    rcases (mem_surplusIssues_iff signature arguments other).mp otherMember with ⟨tooMany, rfl⟩
    rcases List.mem_append.mp member with member | member
    · rcases (mem_givenIssues_iff signature arguments issue).mp member with
        ⟨position, parameter, argument, slot, _, member⟩
      have inRange := (List.getElem?_eq_some_iff.mp slot).1
      exact (Issue.Concerns.of_mem_argumentIssues member).precedes (.of_path rfl) inRange
    · rcases (mem_missingIssues_iff signature arguments issue).mp member with
        ⟨position, parameter, isBehind, required, _, _⟩
      omega

/-- The positions that are reported are those at fault. -/
theorem exists_position?_eq_iff (signature : Signature) (arguments : List Value) (position : Nat) :
    (∃ issue ∈ signature.argumentListIssues arguments,
      issue.path.position? = some position) ↔ signature.FailsAt arguments position := by
  constructor
  · rintro ⟨issue, member, atPosition⟩
    rw [argumentListIssues, List.mem_append, List.mem_append] at member
    rcases member with (member | member) | member
    · rcases (mem_givenIssues_iff signature arguments issue).mp member with
        ⟨place, parameter, argument, slot, given, member⟩
      rw [(Issue.Concerns.of_mem_argumentIssues member).position?, Option.some.injEq] at atPosition
      subst atPosition
      refine .refused slot given ?_
      rw [← parameter.argumentIssues_eq_nil_iff argument place]
      exact List.ne_nil_of_mem member
    · rcases (mem_missingIssues_iff signature arguments issue).mp member with
        ⟨place, parameter, behind, required, _, rfl⟩
      cases atPosition
      exact .missing behind required
    · rcases (mem_surplusIssues_iff signature arguments issue).mp member with ⟨tooMany, rfl⟩
      cases atPosition
      exact .surplus rfl tooMany
  · simp only [argumentListIssues, List.mem_append]
    rintro (⟨slot, given, refused⟩ | ⟨behind, required⟩ | ⟨rfl, tooMany⟩)
    · rename_i parameter argument
      rw [← parameter.argumentIssues_eq_nil_iff argument position] at refused
      rcases List.exists_mem_of_ne_nil _ refused with ⟨issue, member⟩
      refine ⟨issue, Or.inl (Or.inl ?_), (Issue.Concerns.of_mem_argumentIssues member).position?⟩
      exact (mem_givenIssues_iff signature arguments issue).mpr
        ⟨position, parameter, argument, slot, given, member⟩
    · have inRange : position < signature.parameters.length :=
        Nat.lt_of_lt_of_le required signature.requiredArity_le_arity
      refine ⟨signature.parameters[position].missing position, Or.inl (Or.inr ?_), rfl⟩
      exact (mem_missingIssues_iff signature arguments _).mpr
        ⟨position, signature.parameters[position], behind, required,
          List.getElem?_eq_getElem inRange, rfl⟩
    · exact ⟨_, Or.inr ((mem_surplusIssues_iff signature arguments _).mpr ⟨tooMany, rfl⟩), rfl⟩

end Signature

/-! ## Arguments as they are passed on -/

/-- The arguments are checked one after another, each against the type of its parameter at its
position, and passed on as these checks pass them on. What is left out of an optional place by
`undefined` stays so. -/
inductive Parameter.CheckedInTurn : List Parameter → (position : Nat) →
    (arguments results : List Value) → (store later : Store) → Prop where
  | done (parameters : List Parameter) (position : Nat) (store : Store) :
      CheckedInTurn parameters position [] [] store store
  | leftOut {parameter : Parameter} {parameters : List Parameter} {position : Nat}
      {arguments results : List Value} {store later : Store}
      (optional : parameter.optional = true)
      (behind : CheckedInTurn parameters (position + 1) arguments results store later) :
      CheckedInTurn (parameter :: parameters) position (.undefined :: arguments)
        (.undefined :: results) store later
  | checked {parameter : Parameter} {parameters : List Parameter} {position : Nat}
      {argument result : Value} {arguments results : List Value} {store between later : Store}
      (given : ¬(parameter.optional = true ∧ argument = .undefined))
      (checks : ∀ depth, store.run (depth + 1) (parameter.type.schema.check argument
        (IssuePath.arguments.push position)) = some (.ok result, between))
      (behind : CheckedInTurn parameters (position + 1) arguments results between later) :
      CheckedInTurn (parameter :: parameters) position (argument :: arguments)
        (result :: results) store later

namespace ParameterSchema

theorem demand_of_given {parameter : Parameter} {argument : Value}
    (given : ¬(parameter.optional = true ∧ argument = .undefined)) :
    Slot.demand ⟨parameter.type.schema, parameter.optional⟩ argument = parameter.type.schema := by
  unfold Slot.demand
  split
  · rename_i optional
    exact absurd ⟨optional, rfl⟩ given
  · rfl

theorem checkedInTurn_of_slotIssues {parameters : List Parameter} {position : Nat}
    {arguments : List Value} (accepted : slotIssues (slotsOf parameters) position arguments = [])
    (fits : arguments.length ≤ parameters.length) (store : Store) :
    Parameter.CheckedInTurn parameters position arguments
      (Schema.deliveryElements (demands (slotsOf parameters) arguments) .arguments position
        arguments store.promises.size).1 store
      (store.deferAll (Schema.deliveryElements (demands (slotsOf parameters) arguments) .arguments
        position arguments store.promises.size).2) := by
  induction parameters generalizing position arguments store with
  | nil =>
      rw [List.length_nil, Nat.le_zero, List.length_eq_zero_iff] at fits
      subst fits
      simpa [demands, Schema.deliveryElements] using .done [] position store
  | cons parameter parameters ih =>
      cases arguments with
      | nil => simpa [demands, Schema.deliveryElements] using .done _ position store
      | cons argument arguments =>
          rw [slotsOf, List.map_cons, slotIssues_cons_cons, List.append_eq_nil_iff] at accepted
          have othersFit : arguments.length ≤ parameters.length := by simpa using fits
          simp only [demands, slotsOf, List.map_cons, List.zipWith_cons_cons,
            Schema.deliveryElements, Store.deferAll_append, ← Store.size_deferAll]
          by_cases leftOut : parameter.optional = true ∧ argument = .undefined
          · rcases leftOut with ⟨optional, rfl⟩
            simp only [Slot.demand, optional, Schema.delivery, Store.deferAll_nil]
            exact .leftOut optional (ih accepted.2 othersFit store)
          · rw [demand_of_given leftOut] at accepted ⊢
            refine .checked leftOut ?_ (ih accepted.2 othersFit _)
            intro depth
            rw [Store.run, Program.perform_check, accepted.1]

end ParameterSchema

theorem Parameter.CheckedInTurn.length_eq {parameters : List Parameter} {position : Nat}
    {arguments results : List Value} {store later : Store}
    (inTurn : CheckedInTurn parameters position arguments results store later) :
    results.length = arguments.length := by
  induction inTurn with
  | done => rfl
  | leftOut _ _ ih => simp [ih]
  | checked _ _ _ ih => simp [ih]

/-! ## The whole check -/

/-- The failure reports everything wrong with the argument list, and its positions are those at
fault, in order. -/
structure Signature.Rejects (signature : Signature) (arguments : List Value)
    (failure : ValidationFailure) : Prop where
  phase : failure.phase = .arguments
  issues : failure.issues = signature.givenIssues arguments ++ signature.missingIssues arguments ++
    signature.surplusIssues arguments
  ascend : failure.positions.Pairwise (· ≤ ·)
  positions : ∀ position, position ∈ failure.positions ↔ signature.FailsAt arguments position

theorem Signature.rejects_of_issues {signature : Signature} {arguments : List Value}
    {first : Issue} {others : List Issue}
    (wrong : signature.argumentListIssues arguments = first :: others) :
    signature.Rejects arguments ⟨.arguments, first, others⟩ where
  phase := rfl
  issues := wrong.symm
  ascend := by
    rw [ValidationFailure.positions, ValidationFailure.issues, ← wrong, List.pairwise_filterMap]
    refine (pairwise_argumentListIssues signature arguments).imp ?_
    intro earlier later precedes position atPosition behind atBehind
    unfold IssuePath.position? at atPosition atBehind
    split at atPosition
    · split at atBehind
      · exact precedes.head?_le atPosition atBehind
      · cases atBehind
    · cases atPosition
  positions := by
    intro position
    rw [ValidationFailure.positions, ValidationFailure.issues, ← wrong, List.mem_filterMap,
      exists_position?_eq_iff]

/-- Nothing is wrong exactly with an argument list that the signature takes. -/
theorem Signature.argumentListIssues_eq_nil_iff (signature : Signature) (arguments : List Value) :
    signature.argumentListIssues arguments = [] ↔ signature.Takes arguments := by
  constructor
  · intro nothing
    rw [takes_iff_forall_not_failsAt]
    intro position fails
    rcases (exists_position?_eq_iff signature arguments position).mpr fails with ⟨issue, member, _⟩
    simp [nothing] at member
  · rintro ⟨enough, notTooMany, admitted⟩
    rw [List.eq_nil_iff_forall_not_mem]
    intro issue member
    rw [argumentListIssues, List.mem_append, List.mem_append] at member
    rcases member with (member | member) | member
    · rcases (mem_givenIssues_iff signature arguments issue).mp member with
        ⟨position, parameter, argument, slot, given, member⟩
      have nothing := (parameter.argumentIssues_eq_nil_iff argument position).mpr
        (admitted position parameter argument slot given)
      simp [nothing] at member
    · rcases (mem_missingIssues_iff signature arguments issue).mp member with
        ⟨position, parameter, behind, required, _, _⟩
      omega
    · have tooMany := ((mem_surplusIssues_iff signature arguments issue).mp member).1
      omega

/-- A check of arguments succeeds exactly with an argument list that the signature takes. Each
argument is then passed on as the check against its parameter's type passes it on; none is added and
none is dropped. Every other argument list is rejected with everything wrong with it. -/
theorem argument_list_checked_by_arity {signature : Signature} {schema : ParameterSchema}
    (compiles : ParameterSchema.compile signature.parameters = .ok schema)
    (arguments : List Value) (store : Store) (depth : Nat) :
    ((∃ result later, store.run (depth + 1) (schema.check arguments) =
      some (.ok result, later)) ↔ signature.Takes arguments) ∧
    (∀ result later, store.run (depth + 1) (schema.check arguments) = some (.ok result, later) →
      ∃ results, result = .array results ∧ results.length = arguments.length ∧
        Parameter.CheckedInTurn signature.parameters 0 arguments results store later) ∧
    (¬signature.Takes arguments → ∃ failure, signature.Rejects arguments failure ∧
      store.run (depth + 1) (schema.check arguments) =
        some (.error (.invalid failure), store)) := by
  rw [← signature.argumentListIssues_eq_nil_iff arguments, ParameterSchema.run_check,
    ParameterSchema.issues_eq_argumentListIssues compiles arguments]
  cases wrong : signature.argumentListIssues arguments with
  | nil =>
      have accepted := ParameterSchema.issues_eq_argumentListIssues compiles arguments
      rw [wrong] at accepted
      have notTooMany := ((signature.argumentListIssues_eq_nil_iff arguments).mp wrong).notTooMany
      rcases ParameterSchema.compile_eq_ok.mp compiles with ⟨_, rfl⟩
      have inTurn := ParameterSchema.checkedInTurn_of_slotIssues
        (List.append_eq_nil_iff.mp accepted).1 notTooMany store
      refine ⟨⟨fun _ => rfl, fun _ => ⟨_, _, rfl⟩⟩, ?_, by simp⟩
      intro result later ends
      simp only [Option.some.injEq, Prod.mk.injEq, Except.ok.injEq] at ends
      rcases ends with ⟨rfl, rfl⟩
      exact ⟨_, rfl, inTurn.length_eq, inTurn⟩
  | cons first others =>
      refine ⟨by simp, by simp, ?_⟩
      intro _
      exact ⟨_, Signature.rejects_of_issues wrong, rfl⟩

/-- A required text and an optional truth value: the truth value may be left out by `undefined`, and
all of three wrong arguments are reported. -/
theorem argument_list_checked_by_arity_of_pair :
    ParameterSchema.compile
      [⟨none, false, .primitive .string⟩, ⟨none, true, .primitive .boolean⟩] =
        .ok ⟨[⟨.string, false⟩, ⟨.boolean, true⟩]⟩ ∧
    Parameter.CheckedInTurn
      [⟨none, false, .primitive .string⟩, ⟨none, true, .primitive .boolean⟩] 0
      [.string "a", .undefined] [.string "a", .undefined] Store.empty Store.empty ∧
    Signature.Rejects
      ⟨false, [⟨none, false, .primitive .string⟩, ⟨none, true, .primitive .boolean⟩],
        .primitive .void⟩
      [.null, .string "x", .null]
      ⟨.arguments, ⟨⟨.arguments, [0]⟩, "string", "null"⟩,
        [⟨⟨.arguments, [1]⟩, "boolean", "\"x\""⟩,
          ⟨⟨.arguments, [2]⟩, "at most 2 arguments", "3 arguments"⟩]⟩ := by
  have compiles : ParameterSchema.compile
      [⟨none, false, .primitive .string⟩, ⟨none, true, .primitive .boolean⟩] =
        .ok ⟨[⟨.string, false⟩, ⟨.boolean, true⟩]⟩ := by rfl
  have checks := @argument_list_checked_by_arity
    ⟨false, [⟨none, false, .primitive .string⟩, ⟨none, true, .primitive .boolean⟩],
      .primitive .void⟩ _ compiles
  refine ⟨compiles, ?_, ?_⟩
  · rcases (checks [.string "a", .undefined] Store.empty 0).2.1 _ _ rfl with
      ⟨results, same, _, inTurn⟩
    cases same
    exact inTurn
  · have tooMany : ¬Signature.Takes
        ⟨false, [⟨none, false, .primitive .string⟩, ⟨none, true, .primitive .boolean⟩],
          .primitive .void⟩ [.null, .string "x", .null] :=
      fun takes => absurd takes.notTooMany (by decide)
    rcases (checks [.null, .string "x", .null] Store.empty 0).2.2 tooMany with
      ⟨failure, rejects, ends⟩
    cases ends
    exact rejects

end CallContracts
