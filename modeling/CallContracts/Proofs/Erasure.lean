import CallContracts.Proofs.Delivery

/-!
# Types without promises

Erasing the promises of a type leaves the type that a value must have if nothing is promised. A
check against the type with promises puts off what stands behind a promise, so it finds some of the
issues that a check against the erased type finds, in the same order: the same places with the same
values received. What was expected is worded differently, because a promise type has a name of its
own.
-/

namespace CallContracts

mutual

/-- The type with each promise type replaced by what is promised. Nested signatures are left as they
are. -/
def TypeExpr.erasePromises : TypeExpr → TypeExpr
  | .primitive kind => .primitive kind
  | .array element => .array element.erasePromises
  | .tuple elements => .tuple (TypeExpr.eraseAllPromises elements)
  | .promise inner => inner.erasePromises
  | .function signature => .function signature
termination_by structural type => type

/-- Several types without promises. -/
def TypeExpr.eraseAllPromises : List TypeExpr → List TypeExpr
  | [] => []
  | type :: types => type.erasePromises :: TypeExpr.eraseAllPromises types
termination_by structural types => types

end

/-- The parameter with the promises of its type erased. -/
def Parameter.erasePromises (parameter : Parameter) : Parameter :=
  { parameter with type := parameter.type.erasePromises }

mutual

/-- What is asked of a value if nothing is promised. -/
def Schema.erasePromises : Schema → Schema
  | .number => .number
  | .string => .string
  | .boolean => .boolean
  | .null => .null
  | .undefined => .undefined
  | .void => .void
  | .any => .any
  | .callable => .callable
  | .array element => .array element.erasePromises
  | .tuple elements => .tuple (Schema.eraseAllPromises elements)
  | .promise inner => inner.erasePromises
termination_by structural schema => schema

/-- Several schemas without promises. -/
def Schema.eraseAllPromises : List Schema → List Schema
  | [] => []
  | schema :: schemas => schema.erasePromises :: Schema.eraseAllPromises schemas
termination_by structural schemas => schemas

end

theorem Schema.eraseAllPromises_eq_map (schemas : List Schema) :
    Schema.eraseAllPromises schemas = schemas.map Schema.erasePromises := by
  induction schemas with
  | nil => simp [Schema.eraseAllPromises]
  | cons schema schemas ih => simp [Schema.eraseAllPromises, ih]

mutual

theorem TypeExpr.schema_erasePromises (type : TypeExpr) :
    type.erasePromises.schema = type.schema.erasePromises := by
  cases type with
  | primitive kind =>
      cases kind <;>
        simp [TypeExpr.erasePromises, TypeExpr.schema, Primitive.schema, Schema.erasePromises]
  | array element =>
      simp [TypeExpr.erasePromises, TypeExpr.schema, Schema.erasePromises,
        TypeExpr.schema_erasePromises element]
  | tuple elements =>
      simp [TypeExpr.erasePromises, TypeExpr.schema, Schema.erasePromises,
        TypeExpr.schemas_eraseAllPromises elements]
  | promise inner =>
      simp [TypeExpr.erasePromises, TypeExpr.schema, Schema.erasePromises,
        TypeExpr.schema_erasePromises inner]
  | function signature => simp [TypeExpr.erasePromises, TypeExpr.schema, Schema.erasePromises]
termination_by structural type

theorem TypeExpr.schemas_eraseAllPromises (types : List TypeExpr) :
    TypeExpr.schemas (TypeExpr.eraseAllPromises types) =
      Schema.eraseAllPromises (TypeExpr.schemas types) := by
  cases types with
  | nil => simp [TypeExpr.eraseAllPromises, TypeExpr.schemas, Schema.eraseAllPromises]
  | cons type types =>
      simp [TypeExpr.eraseAllPromises, TypeExpr.schemas, Schema.eraseAllPromises,
        TypeExpr.schema_erasePromises type, TypeExpr.schemas_eraseAllPromises types]
termination_by structural types

end

/-- What an issue says of the value it is about: where it stands and what was received there. -/
def Issue.finding (issue : Issue) : IssuePath × String :=
  (issue.path, issue.received)

namespace Schema

/-- A check against the schema finds some of what a check against the erased schema finds. -/
def FindsPart (schema : Schema) : Prop :=
  ∀ (value : Value) (path : IssuePath),
    ((schema.issues value path).map Issue.finding).Sublist
      ((schema.erasePromises.issues value path).map Issue.finding)

theorem elementFindings_sublist_of {schemas : List Schema}
    (each : ∀ schema ∈ schemas, schema.FindsPart) (path : IssuePath) (index : Nat)
    (items : List Value) :
    ((elementIssues schemas path index items).map Issue.finding).Sublist
      ((elementIssues (schemas.map erasePromises) path index items).map Issue.finding) := by
  induction schemas generalizing index items with
  | nil => simp [elementIssues]
  | cons schema schemas ih =>
      cases items with
      | nil => simp [elementIssues]
      | cons item items =>
          have others : ∀ other ∈ schemas, other.FindsPart :=
            fun other member => each other (List.mem_cons_of_mem _ member)
          have first := each schema List.mem_cons_self
          simp only [List.map_cons, elementIssues, List.map_append]
          exact (first item (path.push index)).append (ih others (index + 1) items)

theorem findsPart (schema : Schema) : schema.FindsPart := by
  induction schema with
  | array element ih =>
      intro value path
      cases value with
      | array items =>
          simp only [erasePromises, issues, itemIssues_eq_elementIssues]
          rw [← List.map_replicate]
          apply elementFindings_sublist_of
          intro schema member
          rw [List.eq_of_mem_replicate member]
          exact ih
      | _ => simp [erasePromises, issues, Issue.finding, Issue.mismatch]
  | tuple elements ih =>
      intro value path
      cases value with
      | array items =>
          simp only [erasePromises, issues, eraseAllPromises_eq_map, List.length_map]
          split
          · exact elementFindings_sublist_of ih path 0 items
          · exact List.Sublist.refl _
      | _ => simp [erasePromises, issues, Issue.finding, Issue.mismatch]
  | promise inner _ =>
      intro value path
      simp [issues]
  | _ =>
      intro value path
      exact List.Sublist.refl _

theorem elementFindings_sublist (schemas : List Schema) (path : IssuePath) (index : Nat)
    (items : List Value) :
    ((elementIssues schemas path index items).map Issue.finding).Sublist
      ((elementIssues (schemas.map erasePromises) path index items).map Issue.finding) :=
  elementFindings_sublist_of (fun schema _ => schema.findsPart) path index items

/-- Nothing is promised under an erased schema, so values are passed on as they are. -/
def PassesUnchanged (schema : Schema) : Prop :=
  ∀ (value : Value) (path : IssuePath) (next : Nat),
    schema.erasePromises.delivery value path next = (value, [])

theorem deliveryElements_erasePromises_of {schemas : List Schema}
    (each : ∀ schema ∈ schemas, schema.PassesUnchanged) (path : IssuePath) (index : Nat)
    (items : List Value) (next : Nat) :
    deliveryElements (schemas.map erasePromises) path index items next = (items, []) := by
  induction schemas generalizing index items next with
  | nil => simp [deliveryElements]
  | cons schema schemas ih =>
      cases items with
      | nil => simp [deliveryElements]
      | cons item items =>
          have others : ∀ other ∈ schemas, other.PassesUnchanged :=
            fun other member => each other (List.mem_cons_of_mem _ member)
          have first := each schema List.mem_cons_self
          simp [deliveryElements, first item, ih others]

theorem passesUnchanged (schema : Schema) : schema.PassesUnchanged := by
  induction schema with
  | array element ih =>
      intro value path next
      cases value with
      | array items =>
          have each : ∀ schema ∈ List.replicate items.length element, schema.PassesUnchanged := by
            intro schema member
            rw [List.eq_of_mem_replicate member]
            exact ih
          simp only [erasePromises, delivery, deliveryItems_eq_deliveryElements]
          rw [← List.map_replicate, deliveryElements_erasePromises_of each]
      | _ => simp [erasePromises, delivery]
  | tuple elements ih =>
      intro value path next
      cases value with
      | array items =>
          simp only [erasePromises, delivery, eraseAllPromises_eq_map]
          rw [deliveryElements_erasePromises_of ih]
      | _ => simp [erasePromises, delivery]
  | promise inner ih =>
      intro value path next
      simp only [erasePromises]
      exact ih value path next
  | _ =>
      intro value path next
      simp [erasePromises, delivery]

end Schema

/-! ## Argument lists -/

/-- The slot with the promises of its schema erased. -/
def Slot.erasePromises (slot : Slot) : Slot :=
  { slot with schema := slot.schema.erasePromises }

namespace ParameterSchema

/-- What is asked of an argument list if nothing is promised. -/
def erasePromises (schema : ParameterSchema) : ParameterSchema :=
  ⟨schema.slots.map Slot.erasePromises⟩

theorem misplaced?_map_erasePromises (parameters : List Parameter) (seenOptional : Bool)
    (index : Nat) :
    Parameter.misplaced? seenOptional index (parameters.map Parameter.erasePromises) =
      Parameter.misplaced? seenOptional index parameters := by
  induction parameters generalizing seenOptional index with
  | nil => rfl
  | cons parameter parameters ih =>
      simp [Parameter.misplaced?, Parameter.erasePromises, ih]

/-- A parameter list and the list without promises compile alike. -/
theorem compile_map_erasePromises {parameters : List Parameter} {schema : ParameterSchema}
    (compiles : compile parameters = .ok schema) :
    compile (parameters.map Parameter.erasePromises) = .ok schema.erasePromises := by
  unfold compile Parameter.checkOrder at compiles ⊢
  rw [misplaced?_map_erasePromises]
  cases order : Parameter.misplaced? false 0 parameters with
  | some index =>
      simp only [order] at compiles
      cases compiles
  | none =>
      simp only [order] at compiles
      cases compiles
      simp [erasePromises, Slot.erasePromises, Parameter.erasePromises,
        TypeExpr.schema_erasePromises, Function.comp_def, bind, Except.bind, pure, Except.pure]

theorem demands_map_erasePromises (slots : List Slot) (arguments : List Value) :
    demands (slots.map Slot.erasePromises) arguments =
      (demands slots arguments).map Schema.erasePromises := by
  induction slots generalizing arguments with
  | nil => simp [demands]
  | cons slot slots ih =>
      cases arguments with
      | nil => simp [demands]
      | cons argument arguments =>
          simp only [demands] at ih
          simp only [demands, List.map_cons, List.zipWith_cons_cons, ih, List.cons.injEq, and_true]
          rcases slot with ⟨schema, optional⟩
          cases optional with
          | false => rfl
          | true => cases argument <;> simp [Slot.demand, Slot.erasePromises, Schema.erasePromises]

theorem delivery_erasePromises (schema : ParameterSchema) (arguments : List Value) (next : Nat) :
    schema.erasePromises.delivery arguments next = (arguments, []) := by
  simp only [delivery, erasePromises, demands_map_erasePromises]
  exact Schema.deliveryElements_erasePromises_of (fun schema _ => schema.passesUnchanged) _ _ _ _

/-- Missing arguments are found missing whether promises are erased or not. -/
theorem findings_of_absent (slots : List Slot) (position : Nat) :
    (slotIssues (slots.map Slot.erasePromises) position []).map Issue.finding =
      (slotIssues slots position []).map Issue.finding := by
  induction slots generalizing position with
  | nil => rfl
  | cons slot slots ih =>
      rcases slot with ⟨schema, optional⟩
      cases optional <;>
        simp [slotIssues, Slot.erasePromises, Issue.finding, ih]

/-- The issues about arguments that are missing or have no slot. -/
def countIssues (schema : ParameterSchema) (arguments : List Value) : List Issue :=
  slotIssues (schema.slots.drop arguments.length) arguments.length [] ++
    if schema.slots.length < arguments.length then
      [⟨IssuePath.arguments.push schema.slots.length,
        "at most " ++ toString schema.slots.length ++ " arguments",
        toString arguments.length ++ " arguments"⟩]
    else []

theorem issues_eq (schema : ParameterSchema) (arguments : List Value) :
    schema.issues arguments =
      Schema.elementIssues (demands schema.slots arguments) .arguments 0 arguments ++
        schema.countIssues arguments := by
  simp [issues, countIssues, slotIssues_eq_elementIssues schema.slots 0 arguments]

theorem findings_countIssues_erasePromises (schema : ParameterSchema) (arguments : List Value) :
    (schema.erasePromises.countIssues arguments).map Issue.finding =
      (schema.countIssues arguments).map Issue.finding := by
  simp only [countIssues, erasePromises, List.map_append, List.length_map]
  rw [← List.map_drop, findings_of_absent]

/-- A check of arguments finds some of what a check without promises finds. -/
theorem findings_sublist (schema : ParameterSchema) (arguments : List Value) :
    ((schema.issues arguments).map Issue.finding).Sublist
      ((schema.erasePromises.issues arguments).map Issue.finding) := by
  simp only [issues_eq, List.map_append, findings_countIssues_erasePromises]
  apply List.Sublist.append
  · simp only [erasePromises, demands_map_erasePromises]
    exact Schema.elementFindings_sublist _ _ _ _
  · exact List.Sublist.refl _

end ParameterSchema

end CallContracts
