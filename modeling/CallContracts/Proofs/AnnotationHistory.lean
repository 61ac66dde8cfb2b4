import CallContracts.Annotation
import CallContracts.Proofs.DuckContracts
import CallContracts.Proofs.Sessions

/-!
# Annotations over whole histories

From outside, functions are made, copied, rebound, put under guards and contracts, annotated, looked
up and called, in any order. What is written down of that is a transcript: each operation with its
answer. The annotation of a function can be read off the transcript: it is the signature that was
attached last to its identity, through whatever handle, and nothing but attaching changes it. Each
operation that makes functions makes them under identities that were never handed out before, and
they start without annotation even if what they were made from has one.

An operation either attaches one signature, or all that it does to functions is to make some. That
is said once, by `Operation.attaches_or_makes`, and everything else follows from it.
-/

namespace CallContracts

/-! ## Operations and transcripts -/

namespace Declaration

/-- The function that the declared value is, if it is one. -/
def carried? : Declaration → Option CallableId
  | .function value => value.callable?
  | .legacyMethod _ descriptor => descriptor.bind Value.callable?
  | .method value _ => value.callable?

/-- The function that is annotated by the declaration: the one it carries, unless its shape lacks
something that it needs. -/
def accepted? : Declaration → Option CallableId
  | .method value ⟨_, _, some _⟩ => value.callable?
  | .method _ ⟨_, _, none⟩ => none
  | declaration => declaration.carried?

end Declaration

/-- What is done to functions from outside. -/
inductive Operation where
  | create (name : Option String) (body : List Value → Program)
  /-- Makes a function whose calls return promises of their work. -/
  | createAsync (work : List Value → Program)
  /-- Takes one more handle to a function. -/
  | copy (handle : CallableId)
  | rebind (source : CallableId)
  | implement (schema : FunctionSchema) (target : CallableId)
  | apply (contract : Contract) (candidate : CallableId)
  | applyDuck (contract : DuckContract) (candidate : Object)
  | attach (target : CallableId) (signature : Signature)
  | annotate (annotator : Annotator) (target : CallableId)
  | declare (annotator : Annotator) (declaration : Declaration)
  | lookUp (handle : CallableId)
  | isAnnotated (handle : CallableId)
  /-- Runs code, which may make functions and call them. -/
  | run (program : Program) (depth : Nat)

inductive Answer where
  | callable (handle : CallableId)
  | object (object : Object)
  | found (signature : Option Signature)
  | verdict (holds : Bool)
  | settled (settlement : Settlement)
  | fault (fault : Fault)

/-- The answer to an attempt that leaves the store as it is if it fails. -/
def Answer.ofAttempt {α : Type} (give : α → Answer) (store : Store) :
    Except Fault (α × Store) → Answer × Store
  | .ok (made, later) => (give made, later)
  | .error cause => (.fault cause, store)

namespace Operation

/-- Carries out an operation. Only a run may fail to end within its depth. -/
def carryOut : Operation → Store → Option (Answer × Store)
  | .create name body, store =>
    let (made, store) := store.newCallable name body
    some (.callable made, store)
  | .createAsync work, store =>
    let (made, store) := store.newCallable none fun arguments => Program.promise (work arguments)
    some (.callable made, store)
  | .copy handle, store => some (.callable handle, store)
  | .rebind source, store =>
    let (made, store) := store.rebind source
    some (.callable made, store)
  | .implement schema target, store =>
    let (made, store) := schema.implement target store
    some (.callable made, store)
  | .apply contract candidate, store =>
    some (Answer.ofAttempt .callable store (contract.apply candidate store))
  | .applyDuck contract candidate, store =>
    some (Answer.ofAttempt .object store (contract.apply candidate store))
  | .attach target signature, store => some (.callable target, store.annotate target signature)
  | .annotate annotator target, store => some (.callable target, annotator.annotate target store)
  | .declare annotator declaration, store =>
    some (Answer.ofAttempt .callable store (annotator.declare declaration store))
  | .lookUp handle, store => some (.found (store.declared? handle), store)
  | .isAnnotated handle, store => some (.verdict (store.declared? handle).isSome, store)
  | .run program depth, store =>
    (store.run depth program).map fun (settlement, store) => (.settled settlement, store)

/-- The function that the operation is to attach a signature to, with the signature. -/
def attachment? : Operation → Option (CallableId × Signature)
  | .attach target signature => some (target, signature)
  | .annotate annotator target => some (target, annotator.signature)
  | .declare annotator declaration =>
    declaration.carried?.map fun target => (target, annotator.signature)
  | _ => none

/-- A signature is attached to a function that has been made, if one is to be attached. -/
def Aims (operation : Operation) (store : Store) : Prop :=
  ∀ attachment ∈ operation.attachment?, store.Knows attachment.1

def IsRun : Operation → Prop
  | .run _ _ => True
  | _ => False

end Operation

abbrev Entry : Type :=
  Operation × Answer

/-- The functions that a layer over `candidate` shows in place of those of the candidate. -/
def Object.replacements (candidate ducked : Object) : List CallableId :=
  ducked.own.filterMap fun (name, value) =>
    value.callable?.filter fun id => candidate.method? name ≠ some id

namespace Entry

/-- The successful attachment, if the entry is one. -/
def attached? : Entry → Option (CallableId × Signature)
  | (_, .fault _) => none
  | (operation, _) => operation.attachment?

/-- The new functions that the answer shows. -/
def produced : Entry → List CallableId
  | (.create _ _, .callable made) => [made]
  | (.createAsync _, .callable made) => [made]
  | (.rebind _, .callable made) => [made]
  | (.implement _ _, .callable made) => [made]
  | (.apply _ candidate, .callable checked) => if checked = candidate then [] else [checked]
  | (.applyDuck _ candidate, .object ducked) => candidate.replacements ducked
  | _ => []

end Entry

/-- All operations so far with their answers, the latest one first. -/
abbrev Transcript : Type :=
  List Entry

namespace Transcript

/-- The signature of the latest successful attachment to a function. -/
def latest (id : CallableId) : Transcript → Option Signature
  | [] => none
  | entry :: past =>
    match entry.attached? with
    | some (target, signature) => if target = id then some signature else latest id past
    | none => latest id past

def produced (past : Transcript) : List CallableId :=
  past.flatMap Entry.produced

end Transcript

/-- The transcript of a run from the start, and the store it led to. -/
inductive History : Transcript → Store → Prop where
  | start : History [] Store.empty
  | step {past : Transcript} {store later : Store} {operation : Operation} {answer : Answer}
      (history : History past store) (aims : operation.Aims store)
      (ends : operation.carryOut store = some (answer, later)) :
      History ((operation, answer) :: past) later

/-! ## What an operation does to functions -/

theorem Answer.ofAttempt_eq {α : Type} {give : α → Answer} {store later : Store}
    {result : Except Fault (α × Store)} {answer : Answer}
    (ends : some (ofAttempt give store result) = some (answer, later)) :
    (∃ made, result = .ok (made, later) ∧ answer = give made) ∨
    ∃ cause, result = .error cause ∧ answer = .fault cause ∧ later = store := by
  rw [Option.some.injEq] at ends
  cases result with
  | ok made =>
      cases ends
      exact Or.inl ⟨made.1, rfl, rfl⟩
  | error cause =>
      cases ends
      exact Or.inr ⟨cause, rfl, rfl, rfl⟩

namespace DuckContract

variable {candidate layer ducked : Object} {store later : Store}

theorem replacements_insert (candidate layer : Object) (name : String) (checked : CallableId) :
    ∃ kept : List CallableId, kept.Sublist (candidate.replacements layer) ∧
      (candidate.replacements (layer.insert name (.function checked))).Perm
        (if candidate.method? name = some checked then kept else checked :: kept) := by
  rcases Members.exists_perm_insert layer.own name (.function checked) with ⟨kept, sublist, perm⟩
  refine ⟨_, sublist.filterMap _, ?_⟩
  rw [Object.replacements, Object.own_insert]
  refine (perm.filterMap _).trans ?_
  by_cases same : candidate.method? name = some checked <;>
    simp [Value.callable?, Option.filter, same]

/-- The layer shows no other functions in place of those of the candidate than new ones, each of
them once. -/
structure Builds (candidate layer : Object) (start store : Store) : Prop where
  onlyMakes : start.OnlyMakes store
  gains : ∀ id ∈ candidate.replacements layer, start.Gains store id
  nodup : (candidate.replacements layer).Nodup

theorem Builds.insert {start : Store} (builds : Builds candidate layer start store) {name : String}
    {contract : Contract} {method checked : CallableId}
    (resolves : candidate.method? name = some method)
    (applies : contract.apply method store = .ok (checked, later)) :
    Builds candidate (layer.insert name (.function checked)) start later := by
  have makes := Contract.onlyMakes_of_apply applies
  rcases replacements_insert candidate layer name checked with ⟨kept, sublist, perm⟩
  have keptGains : ∀ id ∈ kept, start.Gains later id := by
    intro id member
    exact (builds.gains id (sublist.subset member)).widen (Store.OnlyMakes.refl start).adds
      makes.adds
  have keptNodup := builds.nodup.sublist sublist
  have gained (differs : ¬candidate.method? name = some checked) : store.Gains later checked := by
    cases Contract.makes_of_apply applies with
    | same => exact absurd resolves differs
    | guard doubts gains guards => exact gains
  refine ⟨builds.onlyMakes.trans makes, ?_, ?_⟩
  · intro id member
    rw [perm.mem_iff] at member
    split at member
    · exact keptGains id member
    · rename_i differs
      rcases List.mem_cons.mp member with rfl | member
      · exact (gained differs).widen builds.onlyMakes.adds (Store.OnlyMakes.refl later).adds
      · exact keptGains id member
  · rw [perm.nodup_iff]
    split
    · exact keptNodup
    · rename_i differs
      refine List.nodup_cons.mpr ⟨?_, keptNodup⟩
      intro member
      -- what is in the layer already was known before `checked` was made
      exact (gained differs).unknown (builds.gains checked (sublist.subset member)).known

theorem builds_of_applyAll {methods : List (String × Contract)} {start : Store}
    (builds : Builds candidate layer start store)
    (applies : applyAll candidate methods layer store = .ok (ducked, later)) :
    Builds candidate ducked start later := by
  induction methods generalizing layer store with
  | nil =>
      simp only [applyAll, Except.ok.injEq, Prod.mk.injEq] at applies
      rcases applies with ⟨rfl, rfl⟩
      exact builds
  | cons declared methods ih =>
      rcases applyAll_cons_eq_ok applies with ⟨method, checked, after, resolves, checks, behind⟩
      exact ih (builds.insert (Object.method?_eq_some_iff.mpr resolves) checks) behind

end DuckContract

namespace Operation

/-- All that the operation does to functions is to make some, and those that its answer shows are
among them, each of them once. Only a run does anything besides. -/
structure Makes (operation : Operation) (answer : Answer) (store later : Store) : Prop where
  adds : store.AddsFunctions later
  rest : ¬operation.IsRun → later = { store with callables := later.callables }
  gains : ∀ id ∈ Entry.produced (operation, answer), store.Gains later id
  nodup : (Entry.produced (operation, answer)).Nodup

variable {operation : Operation} {answer : Answer} {store later : Store}

theorem makes_of_onlyMakes (makes : store.OnlyMakes later)
    (gains : ∀ id ∈ Entry.produced (operation, answer), store.Gains later id)
    (nodup : (Entry.produced (operation, answer)).Nodup) :
    operation.Makes answer store later :=
  ⟨makes.adds, fun _ => makes.rest, gains, nodup⟩

theorem makes_of_none_produced (none : Entry.produced (operation, answer) = []) :
    operation.Makes answer store store := by
  apply makes_of_onlyMakes (.refl store)
  · simp [none]
  · simp [none]

theorem makes_of_newCallable {name : Option String} {body : List Value → Program}
    (one : Entry.produced (operation, answer) = [(store.newCallable name body).1]) :
    operation.Makes answer store (store.newCallable name body).2 := by
  apply makes_of_onlyMakes ⟨store.addsFunctions_newCallable name body, rfl⟩
  · intro id member
    rw [one, List.mem_singleton] at member
    exact member ▸ store.gains_newCallable name body
  · simp [one]

theorem makes_of_apply {contract : Contract} {candidate checked : CallableId}
    (applies : contract.apply candidate store = .ok (checked, later)) :
    (apply contract candidate).Makes (.callable checked) store later := by
  apply makes_of_onlyMakes (Contract.onlyMakes_of_apply applies)
  · intro id member
    simp only [Entry.produced] at member
    split at member
    · simp at member
    · rename_i differs
      rw [List.mem_singleton] at member
      cases Contract.makes_of_apply applies with
      | same => exact absurd rfl differs
      | guard doubts gains guards => exact member ▸ gains
  · simp only [Entry.produced]
    split <;> simp

theorem makes_of_applyDuck {contract : DuckContract} {candidate ducked : Object}
    (applies : contract.apply candidate store = .ok (ducked, later)) :
    (applyDuck contract candidate).Makes (.object ducked) store later := by
  have atFirst : DuckContract.Builds candidate (Object.layeredOver candidate) store store :=
    ⟨.refl store, by simp [Object.replacements, Object.layeredOver, Object.own],
      by simp [Object.replacements, Object.layeredOver, Object.own]⟩
  have builds := DuckContract.builds_of_applyAll atFirst applies
  exact makes_of_onlyMakes builds.onlyMakes builds.gains builds.nodup

/-- A declaration annotates the function that it is accepted with, and is refused without one. -/
theorem declare_eq (annotator : Annotator) (declaration : Declaration) (store : Store) :
    (∃ target, declaration.accepted? = some target ∧ declaration.carried? = some target ∧
      annotator.declare declaration store =
        .ok (target, store.annotate target annotator.signature)) ∨
    (declaration.accepted? = none ∧
      ∃ misuse, annotator.declare declaration store = .error (.invalidUsage misuse)) := by
  have ofValue (shape : String) (value : Value) :
      (∃ target, value.callable? = some target ∧
        Declaration.functionValue shape value = .ok target) ∨
      (value.callable? = none ∧
        ∃ misuse, Declaration.functionValue shape value = .error (.invalidUsage misuse)) := by
    cases value with
    | function target => exact Or.inl ⟨target, rfl, rfl⟩
    | _ => exact Or.inr ⟨rfl, _, rfl⟩
  have ofCallable {target : CallableId} (taken : declaration.callable = .ok target) :
      annotator.declare declaration store =
        .ok (target, store.annotate target annotator.signature) := by
    simp only [Annotator.declare, taken, Annotator.annotate]
  have ofFault {fault : Fault} (refused : declaration.callable = .error fault) :
      annotator.declare declaration store = .error fault := by
    simp only [Annotator.declare, refused]
  cases declaration with
  | function value =>
      rcases ofValue "function" value with ⟨target, carried, taken⟩ | ⟨none, misuse, refused⟩
      · exact Or.inl ⟨target, carried, carried, ofCallable taken⟩
      · exact Or.inr ⟨none, misuse, ofFault refused⟩
  | legacyMethod key descriptor =>
      cases descriptor with
      | none => exact Or.inr ⟨rfl, _, rfl⟩
      | some value =>
          rcases ofValue "legacy method" value with
            ⟨target, carried, taken⟩ | ⟨none, misuse, refused⟩
          · exact Or.inl ⟨target, carried, carried, ofCallable taken⟩
          · exact Or.inr ⟨none, misuse, ofFault refused⟩
  | method value context =>
      rcases context with ⟨kind, name, _ | initializers⟩
      · exact Or.inr ⟨rfl, _, rfl⟩
      · rcases ofValue "method" value with ⟨target, carried, taken⟩ | ⟨none, misuse, refused⟩
        · exact Or.inl ⟨target, carried, carried, ofCallable taken⟩
        · exact Or.inr ⟨none, misuse, ofFault refused⟩

/-- An operation attaches one signature and hands back the function it was attached to, which is
not shown as a new one. -/
structure Attaches (operation : Operation) (answer : Answer) (store later : Store)
    (target : CallableId) (signature : Signature) : Prop where
  attached : Entry.attached? (operation, answer) = some (target, signature)
  handsBack : answer = .callable target
  annotates : later = store.annotate target signature
  produced : Entry.produced (operation, answer) = []

theorem attaches_or_makes (ends : operation.carryOut store = some (answer, later)) :
    (∃ target signature, operation.Attaches answer store later target signature) ∨
    (Entry.attached? (operation, answer) = none ∧ operation.Makes answer store later) := by
  cases operation with
  | create name body =>
      cases ends
      exact Or.inr ⟨rfl, makes_of_newCallable rfl⟩
  | createAsync work =>
      cases ends
      exact Or.inr ⟨rfl, makes_of_newCallable rfl⟩
  | copy handle =>
      cases ends
      exact Or.inr ⟨rfl, makes_of_none_produced rfl⟩
  | rebind source =>
      cases ends
      exact Or.inr ⟨rfl, makes_of_newCallable rfl⟩
  | implement schema target =>
      cases ends
      exact Or.inr ⟨rfl, makes_of_newCallable rfl⟩
  | apply contract candidate =>
      rcases Answer.ofAttempt_eq ends with ⟨checked, applies, rfl⟩ | ⟨fault, _, rfl, rfl⟩
      · exact Or.inr ⟨rfl, makes_of_apply applies⟩
      · exact Or.inr ⟨rfl, makes_of_none_produced rfl⟩
  | applyDuck contract candidate =>
      rcases Answer.ofAttempt_eq ends with ⟨ducked, applies, rfl⟩ | ⟨fault, _, rfl, rfl⟩
      · exact Or.inr ⟨rfl, makes_of_applyDuck applies⟩
      · exact Or.inr ⟨rfl, makes_of_none_produced rfl⟩
  | attach target signature =>
      cases ends
      exact Or.inl ⟨target, signature, rfl, rfl, rfl, rfl⟩
  | annotate annotator target =>
      cases ends
      exact Or.inl ⟨target, annotator.signature, rfl, rfl, rfl, rfl⟩
  | declare annotator declaration =>
      rcases Answer.ofAttempt_eq ends with ⟨target, declares, rfl⟩ | ⟨fault, _, rfl, rfl⟩
      · rcases declare_eq annotator declaration store with
          ⟨other, _, carried, annotates⟩ | ⟨_, misuse, refuses⟩
        · rw [declares, Except.ok.injEq, Prod.mk.injEq] at annotates
          rcases annotates with ⟨rfl, rfl⟩
          refine Or.inl ⟨target, annotator.signature, ?_, rfl, rfl, rfl⟩
          simp [Entry.attached?, attachment?, carried]
        · rw [declares] at refuses
          cases refuses
      · exact Or.inr ⟨rfl, makes_of_none_produced rfl⟩
  | lookUp handle =>
      cases ends
      exact Or.inr ⟨rfl, makes_of_none_produced rfl⟩
  | isAnnotated handle =>
      cases ends
      exact Or.inr ⟨rfl, makes_of_none_produced rfl⟩
  | run program depth =>
      simp only [carryOut, Option.map_eq_some_iff] at ends
      rcases ends with ⟨⟨settlement, reached⟩, ran, same⟩
      cases same
      refine Or.inr ⟨rfl, Store.addsFunctions_passage.run ran, ?_, ?_, ?_⟩
      · intro noRun
        exact absurd trivial noRun
      · simp [Entry.produced]
      · simp [Entry.produced]

theorem exists_carryOut (noRun : ¬operation.IsRun) (store : Store) :
    ∃ answer later, operation.carryOut store = some (answer, later) := by
  cases operation with
  | run program depth => exact absurd trivial noRun
  | _ => exact ⟨_, _, rfl⟩

end Operation

/-! ## What a transcript tells -/

/-- The transcript tells the annotation of every function, and it shows no function as a new one
twice. -/
structure Transcript.Describes (past : Transcript) (store : Store) : Prop where
  latest : ∀ id, store.declared? id = past.latest id
  known : ∀ id ∈ past.produced, store.Knows id
  nodup : past.produced.Nodup

namespace Transcript

variable {past : Transcript} {store later : Store} {operation : Operation} {answer : Answer}

theorem describes_empty : Describes [] Store.empty :=
  ⟨fun _ => rfl, by simp [produced], by simp [produced]⟩

theorem Describes.step (describes : past.Describes store) (aims : operation.Aims store)
    (ends : operation.carryOut store = some (answer, later)) :
    Describes ((operation, answer) :: past) later := by
  rcases Operation.attaches_or_makes ends with ⟨target, signature, attaches⟩ | ⟨none, makes⟩
  · have known : store.Knows target := by
      apply aims (target, signature)
      have attached := attaches.attached
      rw [attaches.handsBack] at attached
      exact attached
    refine ⟨?_, ?_, ?_⟩
    · intro id
      rw [attaches.annotates, Store.declared?_annotate_eq_ite known, describes.latest id]
      simp only [Transcript.latest, attaches.attached, eq_comm]
    · intro id member
      simp only [produced, List.flatMap_cons, attaches.produced, List.nil_append] at member
      rw [attaches.annotates, Store.knows_annotate_iff]
      exact describes.known id member
    · simpa only [produced, List.flatMap_cons, attaches.produced, List.nil_append] using
        describes.nodup
  · refine ⟨?_, ?_, ?_⟩
    · intro id
      rw [makes.adds.declared?_eq, describes.latest id]
      simp only [Transcript.latest, none]
    · intro id member
      -- new functions are known from now on, and the others were known before
      simp only [produced, List.flatMap_cons, List.mem_append] at member
      rcases member with new | old
      · exact (makes.gains id new).known
      · exact makes.adds.knows (describes.known id old)
    · simp only [produced, List.flatMap_cons]
      apply List.nodup_append.mpr
      refine ⟨makes.nodup, describes.nodup, ?_⟩
      rintro id new _ old rfl
      exact (makes.gains id new).unknown (describes.known id old)

end Transcript

theorem History.describes {past : Transcript} {store : Store} (history : History past store) :
    past.Describes store := by
  induction history with
  | start => exact Transcript.describes_empty
  | step _ aims ends ih => exact ih.step aims ends

namespace Operation

/-- The answers that an operation may get behind a transcript. Looking up tells the signature that
was attached last, and asking agrees with it. A declaration is answered with the very function it
was accepted with. -/
def Expects (past : Transcript) : Operation → Answer → Prop
  | .copy handle, answer => answer = .callable handle
  | .attach target _, answer => answer = .callable target
  | .annotate _ target, answer => answer = .callable target
  | .declare _ declaration, answer =>
    match declaration.accepted? with
    | some target => declaration.carried? = some target ∧ answer = .callable target
    | none => ∃ misuse, answer = .fault (.invalidUsage misuse)
  | .lookUp handle, answer => answer = .found (past.latest handle)
  | .isAnnotated handle, answer => answer = .verdict (past.latest handle).isSome
  | .apply _ _, answer => (∃ checked, answer = .callable checked) ∨ ∃ fault, answer = .fault fault
  | .applyDuck _ _, answer => (∃ ducked, answer = .object ducked) ∨ ∃ fault, answer = .fault fault
  | .run _ _, answer => ∃ settlement, answer = .settled settlement
  | _, answer => ∃ made, answer = .callable made

/-- The operation sees annotations and changes them by identity alone. -/
structure FollowsIdentity (past : Transcript) (store : Store) (operation : Operation)
    (answer : Answer) (later : Store) : Prop where
  answers : operation.Expects past answer
  attaches : ∀ {target : CallableId} {signature : Signature},
    Entry.attached? (operation, answer) = some (target, signature) →
      ∀ id, later.declared? id = if id = target then some signature else store.declared? id
  keeps : Entry.attached? (operation, answer) = none →
    ∀ id, later.declared? id = store.declared? id
  /-- New functions have identities that were never handed out before, and no annotation. -/
  fresh : ∀ id ∈ Entry.produced (operation, answer), store.Gains later id ∧ id ∉ past.produced

variable {operation : Operation} {answer : Answer} {past : Transcript} {store later : Store}

theorem expects_of_carryOut (describes : past.Describes store)
    (ends : operation.carryOut store = some (answer, later)) : operation.Expects past answer := by
  cases operation with
  | create name body =>
      cases ends
      exact ⟨_, rfl⟩
  | createAsync work =>
      cases ends
      exact ⟨_, rfl⟩
  | copy handle =>
      cases ends
      rfl
  | rebind source =>
      cases ends
      exact ⟨_, rfl⟩
  | implement schema target =>
      cases ends
      exact ⟨_, rfl⟩
  | apply contract candidate =>
      rcases Answer.ofAttempt_eq ends with ⟨checked, _, answered⟩ | ⟨fault, _, answered, _⟩
      · exact Or.inl ⟨checked, answered⟩
      · exact Or.inr ⟨fault, answered⟩
  | applyDuck contract candidate =>
      rcases Answer.ofAttempt_eq ends with ⟨ducked, _, answered⟩ | ⟨fault, _, answered, _⟩
      · exact Or.inl ⟨ducked, answered⟩
      · exact Or.inr ⟨fault, answered⟩
  | attach target signature =>
      cases ends
      rfl
  | annotate annotator target =>
      cases ends
      rfl
  | declare annotator declaration =>
      simp only [Expects]
      rcases declare_eq annotator declaration store with
        ⟨target, accepted, carried, declares⟩ | ⟨none, misuse, refuses⟩
      · rw [carryOut, declares] at ends
        cases ends
        simp only [accepted]
        exact ⟨carried, trivial⟩
      · rw [carryOut, refuses] at ends
        cases ends
        simp only [none]
        exact ⟨misuse, rfl⟩
  | lookUp handle =>
      cases ends
      simp only [Expects, describes.latest]
  | isAnnotated handle =>
      cases ends
      simp only [Expects, describes.latest]
  | run program depth =>
      simp only [carryOut, Option.map_eq_some_iff] at ends
      rcases ends with ⟨⟨settlement, reached⟩, _, same⟩
      cases same
      exact ⟨settlement, rfl⟩

end Operation

/-- After every history, a function is annotated with the signature that was attached last to its
identity, and the functions that were shown as new ones are all different. Whatever is done next
sees annotations and changes them by identity alone; only a run may fail to come to an end. -/
theorem annotations_follow_identity {past : Transcript} {store : Store}
    (history : History past store) :
    (∀ id, store.declared? id = past.latest id) ∧ past.produced.Nodup ∧
    ∀ operation : Operation, operation.Aims store →
      (¬operation.IsRun → ∃ answer later, operation.carryOut store = some (answer, later)) ∧
      ∀ answer later, operation.carryOut store = some (answer, later) →
        operation.FollowsIdentity past store answer later := by
  have describes := history.describes
  refine ⟨describes.latest, describes.nodup, ?_⟩
  intro operation aims
  refine ⟨fun noRun => Operation.exists_carryOut noRun store, ?_⟩
  intro answer later ends
  have answers := Operation.expects_of_carryOut describes ends
  have behind := (describes.step aims ends).latest
  rcases Operation.attaches_or_makes ends with ⟨target, signature, attaches⟩ | ⟨none, makes⟩
  · refine ⟨answers, ?_, ?_, ?_⟩
    · intro other otherSignature attached id
      rw [behind, describes.latest]
      simp only [Transcript.latest, attached, eq_comm]
    · intro none
      simp [attaches.attached] at none
    · simp [attaches.produced]
  · refine ⟨answers, ?_, fun _ => makes.adds.declared?_eq, ?_⟩
    · intro target signature attached
      simp [none] at attached
    · intro id new
      have gains := makes.gains id new
      exact ⟨gains, fun old => gains.unknown (describes.known id old)⟩

/-- A function is annotated, rebound and annotated anew, with its rebound twin annotated in between
and a declaration without an initializer registry refused. Each keeps the annotation that was
attached last to itself, and a further rebound function starts without one. -/
theorem annotations_follow_identity_of_rebound :
    let plain : Signature := ⟨false, [], .primitive .void⟩
    let delayed : Signature := ⟨true, [], .promise (.primitive .void)⟩
    let past : Transcript :=
      [(.declare ⟨plain⟩ (.method (.function ⟨0⟩) (.withoutInitializers .getter "quack")),
          .fault (.invalidUsage (.noInitializerRegistry "quack"))),
        (.attach ⟨0⟩ delayed, .callable ⟨0⟩),
        (.annotate ⟨plain⟩ ⟨1⟩, .callable ⟨1⟩),
        (.rebind ⟨0⟩, .callable ⟨1⟩),
        (.attach ⟨0⟩ plain, .callable ⟨0⟩),
        (.create (some "quack") fun _ => .finish (.ok .undefined), .callable ⟨0⟩)]
    ∃ store, History past store ∧
      store.declared? ⟨0⟩ = some delayed ∧ store.declared? ⟨1⟩ = some plain ∧
      past.produced = [⟨1⟩, ⟨0⟩] ∧
      ∃ later, (Operation.rebind ⟨0⟩).carryOut store = some (.callable ⟨2⟩, later) ∧
        (Operation.rebind ⟨0⟩).FollowsIdentity past store (.callable ⟨2⟩) later := by
  intro plain delayed past
  have aimed {operation : Operation} {store : Store} {target : CallableId} {signature : Signature}
      (aim : operation.attachment? = some (target, signature)) (known : store.Knows target) :
      operation.Aims store := by
    intro attachment due
    rw [aim, Option.mem_some_iff] at due
    exact due ▸ known
  have aimless {operation : Operation} {store : Store} (aim : operation.attachment? = none) :
      operation.Aims store := by
    intro attachment due
    simp [aim] at due
  have created := History.start.step (aimless rfl) (rfl : (Operation.create (some "quack")
    fun _ => .finish (.ok .undefined)).carryOut _ = some (.callable ⟨0⟩, _))
  have attached := created.step
    (aimed (rfl : (Operation.attach ⟨0⟩ plain).attachment? = _) (Nat.zero_lt_succ 0)) rfl
  have rebound := attached.step (aimless (rfl : (Operation.rebind ⟨0⟩).attachment? = _)) rfl
  have twin := rebound.step
    (aimed (rfl : (Operation.annotate ⟨plain⟩ ⟨1⟩).attachment? = _) (Nat.lt_succ_self 1)) rfl
  have anew := twin.step
    (aimed (rfl : (Operation.attach ⟨0⟩ delayed).attachment? = _) (Nat.zero_lt_succ 1)) rfl
  have history : History past _ := anew.step
    (aimed (rfl : (Operation.declare ⟨plain⟩ (.method (.function ⟨0⟩)
      (.withoutInitializers .getter "quack"))).attachment? = _) (Nat.zero_lt_succ 1)) rfl
  rcases annotations_follow_identity history with ⟨latest, _, follows⟩
  refine ⟨_, history, latest _, latest _, rfl, _, rfl, ?_⟩
  exact (follows (.rebind ⟨0⟩) (aimless rfl)).2 _ _ rfl

end CallContracts
