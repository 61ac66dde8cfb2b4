import Mathlib.Data.List.Sort
import CallContracts.Proofs.Layers
import CallContracts.Proofs.Sessions
import CallContracts.Role

/-!
# Nominal roles

A wrapper has exactly the roles that were attached to it and that admit its object. It does not
matter in which order and how often they were attached, since the roles of a wrapper are kept as a
list that ascends. A role is told apart from others by its identity alone, so another role of the
same guard has to be attached by itself.

A stage is what there is at one moment: the roles that have been made, the wrappers, and the views
of objects through roles that were handed out. Beside each wrapper stands which roles were ever
attempted on it. What holds of all stages that can be reached is proved of one step and then of all.
-/

namespace CallContracts

/-! ## The roles of one wrapper -/

theorem RoleId.index_injective : Function.Injective RoleId.index := by
  intro left right equal
  cases left
  cases right
  exact congrArg RoleId.mk equal

namespace RoleAware

variable {aware : RoleAware} {role : Role} {id : RoleId}

theorem mem_insertRole {added : RoleId} {roles : List RoleId} :
    id ∈ insertRole added roles ↔ id = added ∨ id ∈ roles := by
  induction roles with
  | nil => simp [insertRole]
  | cons first roles ih =>
      unfold insertRole
      split
      · simp
      · split
        · rename_i same
          simp [same]
        · simp only [List.mem_cons, ih]
          tauto

def Ascends (roles : List RoleId) : Prop :=
  (roles.map RoleId.index).Pairwise (· < ·)

theorem ascends_insertRole {roles : List RoleId} (ascends : Ascends roles) (added : RoleId) :
    Ascends (insertRole added roles) := by
  unfold Ascends at ascends ⊢
  induction roles with
  | nil => simp [insertRole]
  | cons first roles ih =>
      rcases List.pairwise_cons.mp ascends with ⟨above, behind⟩
      unfold insertRole
      split
      · rename_i before
        refine List.pairwise_cons.mpr ⟨?_, ascends⟩
        intro index member
        rcases List.mem_cons.mp member with rfl | member
        · exact before
        · exact Nat.lt_trans before (above index member)
      · split
        · exact ascends
        · rename_i notBefore differ
          refine List.pairwise_cons.mpr ⟨?_, ih behind⟩
          intro index member
          rcases List.mem_map.mp member with ⟨id, inserted, rfl⟩
          rcases mem_insertRole.mp inserted with rfl | old
          · have apart : id.index ≠ first.index := fun equal =>
              differ (RoleId.index_injective equal)
            omega
          · exact above id.index (List.mem_map_of_mem old)

theorem Ascends.eq_of_mem_iff {roles others : List RoleId} (ascends : Ascends roles)
    (othersAscend : Ascends others) (same : ∀ id, id ∈ roles ↔ id ∈ others) : roles = others := by
  apply List.map_injective_iff.mpr RoleId.index_injective
  apply List.Pairwise.eq_of_mem_iff ascends othersAscend
  intro index
  simp only [List.mem_map, same]

@[simp]
theorem object_attach (aware : RoleAware) (role : Role) :
    (aware.attach role).object = aware.object := by
  unfold attach
  split <;> rfl

theorem mem_roles_attach_iff :
    id ∈ (aware.attach role).roles ↔
      id ∈ aware.roles ∨ (role.guard aware.object = true ∧ role.id = id) := by
  unfold attach
  cases role.guard aware.object with
  | false => simp
  | true => simp [mem_insertRole, eq_comm, or_comm]

/-- The wrapper after several roles were attached, the last one of the list first. -/
def attachAll (aware : RoleAware) (attempts : List Role) : RoleAware :=
  attempts.foldr (fun role aware => aware.attach role) aware

@[simp]
theorem attachAll_cons (aware : RoleAware) (role : Role) (attempts : List Role) :
    aware.attachAll (role :: attempts) = (aware.attachAll attempts).attach role :=
  rfl

@[simp]
theorem object_attachAll (aware : RoleAware) (attempts : List Role) :
    (aware.attachAll attempts).object = aware.object := by
  induction attempts with
  | nil => rfl
  | cons role attempts ih => simp [ih]

theorem mem_roles_attachAll_iff {attempts : List Role} :
    id ∈ (aware.attachAll attempts).roles ↔
      id ∈ aware.roles ∨
        ∃ attempted ∈ attempts, attempted.guard aware.object = true ∧ attempted.id = id := by
  induction attempts with
  | nil => simp [attachAll]
  | cons first attempts ih => simp [mem_roles_attach_iff, ih, or_comm, or_left_comm]

theorem ascends_roles_attachAll (ascends : Ascends aware.roles) (attempts : List Role) :
    Ascends (aware.attachAll attempts).roles := by
  induction attempts with
  | nil => exact ascends
  | cons role attempts ih =>
      rw [attachAll_cons, attach]
      split
      · exact ascends_insertRole ih role.id
      · exact ih

theorem ascends_wrap (base : Object) : Ascends (wrap base).roles :=
  .nil

/-- Neither the order nor the number of attempts makes a difference. -/
theorem attachAll_eq_of_mem_iff (ascends : Ascends aware.roles) {attempts others : List Role}
    (same : ∀ role, role ∈ attempts ↔ role ∈ others) :
    aware.attachAll attempts = aware.attachAll others := by
  have sameObject : (aware.attachAll attempts).object = (aware.attachAll others).object := by
    rw [object_attachAll, object_attachAll]
  have sameRoles : (aware.attachAll attempts).roles = (aware.attachAll others).roles := by
    -- both lists ascend, so it is enough that they hold the same roles
    apply (ascends_roles_attachAll ascends attempts).eq_of_mem_iff
      (ascends_roles_attachAll ascends others)
    intro id
    simp only [mem_roles_attachAll_iff, same]
  cases left : aware.attachAll attempts
  cases right : aware.attachAll others
  simp_all

/-! ### What is said of one role -/

theorem hasRole_iff : aware.hasRole role = true ↔ role.id ∈ aware.roles := by
  simp [hasRole]

theorem implements?_eq_some_iff {protocol : Protocol} :
    aware.implements? role = some protocol ↔
      aware.hasRole role = true ∧ protocol = ⟨role.id, aware.object⟩ := by
  unfold implements?
  split
  · rename_i has
    simp [has, eq_comm]
  · rename_i lacks
    simp [lacks]

theorem ensureImplements_eq_ok_iff {protocol : Protocol} :
    aware.ensureImplements role = .ok protocol ↔ aware.implements? role = some protocol := by
  unfold ensureImplements
  cases aware.implements? role <;> simp

theorem attached?_of_admitted (admits : role.guard aware.object = true) :
    (aware.attach role).hasRole role = true ∧
      aware.attached? role = some ⟨role.id, aware.object⟩ := by
  have has : (aware.attach role).hasRole role = true :=
    hasRole_iff.mpr (mem_roles_attach_iff.mpr (Or.inr ⟨admits, rfl⟩))
  refine ⟨has, ?_⟩
  rw [attached?, if_pos admits, implements?_eq_some_iff, object_attach]
  exact ⟨has, rfl⟩

theorem attach_of_rejected (rejects : role.guard aware.object = false) :
    aware.attach role = aware ∧ aware.attached? role = none := by
  simp [attach, attached?, rejects]

end RoleAware

theorem Store.roleCount_passage : Passage fun store later => later.roleCount = store.roleCount where
  refl _ := rfl
  trans first second := second.trans first
  record _ _ := rfl
  newPromise _ _ := rfl
  newCallable _ _ _ := rfl
  save _ _ _ := rfl
  settlePromise _ _ leads := leads

namespace Role

variable {description : String} {role : Role} {store later : Store}

theorem register_eq_ok_iff {guard : Object → Bool} :
    register description guard store = .ok (role, later) ↔
      guard probe = false ∧ role = ⟨⟨store.roleCount⟩, description, guard⟩ ∧
        later = { store with roleCount := store.roleCount + 1 } := by
  unfold register
  cases guard probe <;> simp [eq_comm]

theorem method?_probe (name : String) : probe.method? name = none := by
  rw [Option.eq_none_iff_forall_ne_some]
  intro callee shown
  rw [Object.method?_eq_some_iff, probe, Object.get?_insert] at shown
  split at shown
  · cases shown
  · cases shown

/-- The probe has all methods of a list only if there are none in it. -/
theorem hasMethods_probe_eq_false_iff {names : List String} :
    hasMethods names probe = false ↔ names ≠ [] := by
  cases names with
  | nil => simp [hasMethods]
  | cons name names => simp [hasMethods, method?_probe]

end Role

/-! ## Stages -/

/-- A wrapper with the object that it was made of and the roles that were attempted on it, the
latest one first. -/
structure Wrapper where
  base : Object
  attempts : List Role
  aware : RoleAware

namespace Wrapper

def wrap (base : Object) : Wrapper :=
  ⟨base, [], RoleAware.wrap base⟩

def attach (wrapper : Wrapper) (role : Role) : Wrapper :=
  { wrapper with attempts := role :: wrapper.attempts, aware := wrapper.aware.attach role }

/-- The role was attempted on the wrapper and admits the layer over the object. -/
def Plays (wrapper : Wrapper) (role : Role) : Prop :=
  role ∈ wrapper.attempts ∧ role.guard (Object.layeredOver wrapper.base) = true

end Wrapper

/-- What there is at one moment: the roles that were made, the wrappers, and the views through roles
that were handed out, the latest ones first. -/
structure Stage where
  store : Store
  roles : List Role
  wrappers : List Wrapper
  protocols : List Protocol

namespace Stage

def start (store : Store) : Stage :=
  ⟨store, [], [], []⟩

/-- Attaches a role to one of the wrappers and hands out what that yields. -/
def attach (stage : Stage) (index : Nat) (role : Role) : Stage :=
  match stage.wrappers[index]? with
  | some wrapper =>
    { stage with
      wrappers := stage.wrappers.set index (wrapper.attach role)
      protocols := (wrapper.aware.attached? role).toList ++ stage.protocols }
  | none => stage

/-- One step from a stage to the next. -/
inductive Step (stage : Stage) : Stage → Prop where
  /-- Something else happens in the meantime. -/
  | meanwhile {later : Store} (step : Store.Step (fun _ => True) stage.store later) :
      Step stage { stage with store := later }
  | register (description : String) (guard : Object → Bool) {role : Role} {later : Store}
      (made : Role.register description guard stage.store = .ok (role, later)) :
      Step stage { stage with store := later, roles := role :: stage.roles }
  | wrap (base : Object) :
      Step stage { stage with wrappers := stage.wrappers ++ [Wrapper.wrap base] }
  /-- A wrapper is copied with the roles that it has. -/
  | copy {wrapper : Wrapper} (member : wrapper ∈ stage.wrappers) :
      Step stage { stage with wrappers := stage.wrappers ++ [wrapper] }
  | attach (index : Nat) {role : Role} (registered : role ∈ stage.roles) :
      Step stage (stage.attach index role)
  | view {wrapper : Wrapper} (member : wrapper ∈ stage.wrappers) {role : Role}
      (registered : role ∈ stage.roles) :
      Step stage
        { stage with protocols := (wrapper.aware.implements? role).toList ++ stage.protocols }
  | ensure {wrapper : Wrapper} (member : wrapper ∈ stage.wrappers) {role : Role}
      (registered : role ∈ stage.roles) {protocol : Protocol}
      (ensured : wrapper.aware.ensureImplements role = .ok protocol) :
      Step stage { stage with protocols := protocol :: stage.protocols }

abbrev Reaches : Stage → Stage → Prop :=
  Relation.ReflTransGen Step

/-- Roles have identities of their own, wrappers went through the attempts that are noted beside
them, and views were handed out where a role admits the object. -/
structure IsSound (stage : Stage) : Prop where
  numbered : ∀ role ∈ stage.roles, role.id.index < stage.store.roleCount
  distinct : (stage.roles.map Role.id).Nodup
  traced : ∀ wrapper ∈ stage.wrappers,
    wrapper.aware = (RoleAware.wrap wrapper.base).attachAll wrapper.attempts
  registered : ∀ wrapper ∈ stage.wrappers, ∀ role ∈ wrapper.attempts, role ∈ stage.roles
  admitted : ∀ protocol ∈ stage.protocols, ∃ role ∈ stage.roles,
    role.id = protocol.role ∧ role.guard protocol.object = true

variable {stage later : Stage}

namespace IsSound

theorem hasRole_iff_plays (sound : stage.IsSound) {wrapper : Wrapper}
    (member : wrapper ∈ stage.wrappers) {role : Role} (known : role ∈ stage.roles) :
    wrapper.aware.hasRole role = true ↔ wrapper.Plays role := by
  rw [sound.traced wrapper member, RoleAware.hasRole_iff, RoleAware.mem_roles_attachAll_iff]
  constructor
  · rintro (atFirst | ⟨attempted, attempt, admits, sameId⟩)
    · simp [RoleAware.wrap] at atFirst
    · -- an attempted role of the same identity is the role itself
      have knownToo := sound.registered wrapper member attempted attempt
      have same := List.inj_on_of_nodup_map sound.distinct knownToo known sameId
      exact same ▸ ⟨attempt, admits⟩
  · rintro ⟨attempt, admits⟩
    exact Or.inr ⟨role, attempt, admits, rfl⟩

theorem object_eq (sound : stage.IsSound) {wrapper : Wrapper}
    (member : wrapper ∈ stage.wrappers) :
    wrapper.aware.object = Object.layeredOver wrapper.base := by
  rw [sound.traced wrapper member, RoleAware.object_attachAll]
  rfl

theorem start (store : Store) : (Stage.start store).IsSound := by
  constructor <;> simp [Stage.start]

theorem admits_of_implements? (sound : stage.IsSound) {wrapper : Wrapper}
    (member : wrapper ∈ stage.wrappers) {role : Role} (known : role ∈ stage.roles)
    {protocol : Protocol} (viewed : wrapper.aware.implements? role = some protocol) :
    role.id = protocol.role ∧ role.guard protocol.object = true := by
  rcases RoleAware.implements?_eq_some_iff.mp viewed with ⟨has, rfl⟩
  refine ⟨rfl, ?_⟩
  rw [sound.object_eq member]
  exact ((sound.hasRole_iff_plays member known).mp has).2

end IsSound

theorem IsSound.append (sound : stage.IsSound) {wrapper : Wrapper}
    (traced : wrapper.aware = (RoleAware.wrap wrapper.base).attachAll wrapper.attempts)
    (registered : ∀ role ∈ wrapper.attempts, role ∈ stage.roles) :
    IsSound { stage with wrappers := stage.wrappers ++ [wrapper] } := by
  refine ⟨sound.numbered, sound.distinct, ?_, ?_, sound.admitted⟩
  · intro other member
    rcases List.mem_append.mp member with member | member
    · exact sound.traced other member
    · exact List.mem_singleton.mp member ▸ traced
  · intro other member
    rcases List.mem_append.mp member with member | member
    · exact sound.registered other member
    · exact List.mem_singleton.mp member ▸ registered

theorem IsSound.handOut (sound : stage.IsSound) {role : Role} (known : role ∈ stage.roles)
    {views : List Protocol}
    (admits : ∀ view ∈ views, role.id = view.role ∧ role.guard view.object = true) :
    IsSound { stage with protocols := views ++ stage.protocols } := by
  refine ⟨sound.numbered, sound.distinct, sound.traced, sound.registered, ?_⟩
  intro protocol member
  rcases List.mem_append.mp member with new | old
  · exact ⟨role, known, admits protocol new⟩
  · exact sound.admitted protocol old

theorem IsSound.attach (sound : stage.IsSound) (index : Nat) {role : Role}
    (known : role ∈ stage.roles) : (stage.attach index role).IsSound := by
  unfold Stage.attach
  split
  · rename_i wrapper found
    have member := List.mem_of_getElem? found
    have changed : IsSound
        { stage with wrappers := stage.wrappers.set index (wrapper.attach role) } := by
      refine ⟨sound.numbered, sound.distinct, ?_, ?_, sound.admitted⟩
      · intro other otherMember
        rcases List.mem_or_eq_of_mem_set otherMember with old | rfl
        · exact sound.traced other old
        · simp only [Wrapper.attach, RoleAware.attachAll_cons, ← sound.traced wrapper member]
      · intro other otherMember attempted attempt
        rcases List.mem_or_eq_of_mem_set otherMember with old | rfl
        · exact sound.registered other old attempted attempt
        · rcases List.mem_cons.mp attempt with rfl | attempt
          · exact known
          · exact sound.registered wrapper member attempted attempt
    apply changed.handOut known
    intro view handed
    rw [Option.mem_toList] at handed
    cases admits : role.guard wrapper.aware.object with
    | false => simp [(RoleAware.attach_of_rejected admits).2] at handed
    | true =>
        rw [(RoleAware.attached?_of_admitted admits).2, Option.some.injEq] at handed
        subst handed
        exact ⟨rfl, admits⟩
  · exact sound

theorem IsSound.step (sound : stage.IsSound) (step : stage.Step later) : later.IsSound := by
  cases step with
  | meanwhile step =>
      have sameCount := Store.roleCount_passage.step step
      refine ⟨?_, sound.distinct, sound.traced, sound.registered, sound.admitted⟩
      intro role member
      exact sameCount ▸ sound.numbered role member
  | register description guard made =>
      rcases Role.register_eq_ok_iff.mp made with ⟨_, rfl, rfl⟩
      refine ⟨?_, ?_, sound.traced, ?_, ?_⟩
      · intro role member
        rcases List.mem_cons.mp member with rfl | member
        · exact Nat.lt_succ_self _
        · exact Nat.lt_succ_of_lt (sound.numbered role member)
      · refine List.nodup_cons.mpr ⟨?_, sound.distinct⟩
        intro member
        -- the new identity is the number of roles, which those that were known stay below
        rcases List.mem_map.mp member with ⟨role, old, sameId⟩
        have numbered := sound.numbered role old
        rw [sameId] at numbered
        exact Nat.lt_irrefl _ numbered
      · intro wrapper member role attempt
        exact List.mem_cons_of_mem _ (sound.registered wrapper member role attempt)
      · intro protocol member
        rcases sound.admitted protocol member with ⟨role, old, admits⟩
        exact ⟨role, List.mem_cons_of_mem _ old, admits⟩
  | wrap base => exact sound.append rfl (by simp [Wrapper.wrap])
  | @copy wrapper member =>
      exact sound.append (sound.traced wrapper member) (sound.registered wrapper member)
  | attach index known => exact sound.attach index known
  | view member known =>
      apply sound.handOut known
      intro view handed
      exact sound.admits_of_implements? member known (Option.mem_toList.mp handed)
  | @ensure wrapper member role known protocol ensured =>
      have handedOut : IsSound { stage with protocols := [protocol] ++ stage.protocols } := by
        apply sound.handOut known
        intro view handed
        rw [List.mem_singleton.mp handed]
        exact sound.admits_of_implements? member known
          (RoleAware.ensureImplements_eq_ok_iff.mp ensured)
      exact handedOut

theorem IsSound.of_reaches {store : Store} (reached : (Stage.start store).Reaches stage) :
    stage.IsSound := by
  induction reached with
  | refl => exact IsSound.start store
  | tail _ step ih => exact ih.step step

/-! ### Nothing is lost -/

/-- What there was is still there, and each wrapper has the roles that it had. -/
structure Develops (stage later : Stage) : Prop where
  roles : ∀ role ∈ stage.roles, role ∈ later.roles
  protocols : ∀ protocol ∈ stage.protocols, protocol ∈ later.protocols
  wrappers : ∀ (index : Nat) (wrapper : Wrapper), stage.wrappers[index]? = some wrapper →
    ∃ further : Wrapper, later.wrappers[index]? = some further ∧ further.base = wrapper.base ∧
      (∀ role ∈ wrapper.attempts, role ∈ further.attempts) ∧
      ∀ role, wrapper.aware.hasRole role = true → further.aware.hasRole role = true

theorem Develops.refl (stage : Stage) : stage.Develops stage :=
  ⟨fun _ known => known, fun _ known => known,
    fun _ wrapper found => ⟨wrapper, found, rfl, fun _ attempt => attempt, fun _ has => has⟩⟩

theorem Develops.trans {middle : Stage} (first : stage.Develops middle)
    (second : middle.Develops later) : stage.Develops later := by
  refine ⟨fun role known => second.roles role (first.roles role known),
    fun protocol known => second.protocols protocol (first.protocols protocol known), ?_⟩
  intro index wrapper found
  rcases first.wrappers index wrapper found with ⟨between, foundThen, base, attempts, has⟩
  rcases second.wrappers index between foundThen with
    ⟨further, foundLater, baseLater, attemptsLater, hasLater⟩
  exact ⟨further, foundLater, baseLater.trans base,
    fun role attempt => attemptsLater role (attempts role attempt),
    fun role had => hasLater role (has role had)⟩

theorem getElem?_attach_of_ne {index other : Nat} (differs : other ≠ index) (role : Role) :
    (stage.attach index role).wrappers[other]? = stage.wrappers[other]? := by
  unfold Stage.attach
  split
  · exact List.getElem?_set_ne (Ne.symm differs)
  · rfl

theorem develops_attach (stage : Stage) (index : Nat) (role : Role) :
    stage.Develops (stage.attach index role) := by
  refine ⟨?_, ?_, ?_⟩
  · intro other known
    unfold Stage.attach
    split <;> exact known
  · intro protocol known
    unfold Stage.attach
    split
    · exact List.mem_append_right _ known
    · exact known
  · intro other wrapper found
    by_cases same : other = index
    · subst same
      have bound : other < stage.wrappers.length := (List.getElem?_eq_some_iff.mp found).1
      refine ⟨wrapper.attach role, ?_, rfl, ?_, ?_⟩
      · simp only [Stage.attach, found]
        exact List.getElem?_set_self bound
      · exact fun attempted attempt => List.mem_cons_of_mem _ attempt
      · intro had has
        rw [RoleAware.hasRole_iff] at has ⊢
        exact RoleAware.mem_roles_attach_iff.mpr (Or.inl has)
    · rw [getElem?_attach_of_ne same]
      exact (Develops.refl stage).wrappers other wrapper found

theorem Step.develops (step : stage.Step later) : stage.Develops later := by
  have kept := Develops.refl stage
  have appended (wrapper : Wrapper) :
      stage.Develops { stage with wrappers := stage.wrappers ++ [wrapper] } := by
    refine ⟨kept.roles, kept.protocols, ?_⟩
    intro index old found
    have bound : index < stage.wrappers.length := (List.getElem?_eq_some_iff.mp found).1
    rw [List.getElem?_append_left bound]
    exact kept.wrappers index old found
  cases step with
  | meanwhile => exact ⟨kept.roles, kept.protocols, kept.wrappers⟩
  | register =>
      exact ⟨fun role known => List.mem_cons_of_mem _ known, kept.protocols, kept.wrappers⟩
  | wrap base => exact appended _
  | copy member => exact appended _
  | attach index known => exact stage.develops_attach index _
  | view =>
      exact ⟨kept.roles, fun protocol known => List.mem_append_right _ known, kept.wrappers⟩
  | ensure =>
      exact ⟨kept.roles, fun protocol known => List.mem_cons_of_mem _ known, kept.wrappers⟩

theorem Reaches.develops (reaches : stage.Reaches later) : stage.Develops later := by
  induction reaches with
  | refl => exact .refl stage
  | tail _ step ih => exact ih.trans step.develops

end Stage

/-! ## What is true of every stage -/

/-- How a wrapper deals with a role that was made. -/
structure Wrapper.Treats (wrapper : Wrapper) (role : Role) : Prop where
  hasRole : wrapper.aware.hasRole role = true ↔ wrapper.Plays role
  implements : (wrapper.aware.implements? role).isSome = true ↔ wrapper.Plays role
  ensures : (∃ protocol, wrapper.aware.ensureImplements role = .ok protocol) ↔
    wrapper.Plays role
  misses : ¬wrapper.Plays role →
    wrapper.aware.ensureImplements role = .error (.roleNotImplemented role.description)
  rejects : role.guard (Object.layeredOver wrapper.base) = false →
    wrapper.aware.attach role = wrapper.aware ∧ wrapper.aware.attached? role = none
  admits : role.guard (Object.layeredOver wrapper.base) = true →
    (wrapper.aware.attach role).hasRole role = true ∧
      wrapper.aware.attached? role = some ⟨role.id, Object.layeredOver wrapper.base⟩
  /-- No other role is attached or lost by that, even if it has the same guard. -/
  others : ∀ other : Role, other.id ≠ role.id →
    (wrapper.aware.attach role).hasRole other = wrapper.aware.hasRole other

theorem Stage.IsSound.treats {stage : Stage} (sound : stage.IsSound) {wrapper : Wrapper}
    (member : wrapper ∈ stage.wrappers) {role : Role} (known : role ∈ stage.roles) :
    wrapper.Treats role := by
  have plays := sound.hasRole_iff_plays member known
  have object := sound.object_eq member
  have viewed : (wrapper.aware.implements? role).isSome = true ↔ wrapper.Plays role := by
    rw [← plays, RoleAware.implements?]
    split <;> simp [*]
  refine ⟨plays, viewed, ?_, ?_, ?_, ?_, ?_⟩
  · rw [← viewed, Option.isSome_iff_exists]
    simp only [RoleAware.ensureImplements_eq_ok_iff]
  · intro misses
    rw [← viewed, Option.not_isSome_iff_eq_none] at misses
    simp only [RoleAware.ensureImplements, misses]
  · intro rejects
    exact RoleAware.attach_of_rejected (object ▸ rejects)
  · intro admits
    rw [← object] at admits ⊢
    exact RoleAware.attached?_of_admitted admits
  · intro other differs
    rw [Bool.eq_iff_iff, RoleAware.hasRole_iff, RoleAware.hasRole_iff,
      RoleAware.mem_roles_attach_iff]
    have noMore : ¬(role.guard wrapper.aware.object = true ∧ role.id = other.id) :=
      fun attached => differs attached.2.symm
    simp [noMore]

/-- Roles are told apart by their identities alone, and each wrapper keeps its own. -/
structure Stage.IsNominal (stage : Stage) : Prop where
  distinct : (stage.roles.map Role.id).Nodup
  treats : ∀ wrapper ∈ stage.wrappers, ∀ role ∈ stage.roles, wrapper.Treats role
  /-- The order and the number of attempts make no difference. -/
  orderless : ∀ wrapper ∈ stage.wrappers, ∀ other ∈ stage.wrappers, wrapper.base = other.base →
    (∀ role, role ∈ wrapper.attempts ↔ role ∈ other.attempts) → wrapper.aware = other.aware
  monotone : ∀ later, stage.Reaches later → stage.Develops later
  apart : ∀ (index other : Nat), other ≠ index → ∀ role,
    (stage.attach index role).wrappers[other]? = stage.wrappers[other]?
  /-- A role that is made, from whatever guard, is none that a wrapper has already. -/
  fresh : ∀ description guard role later,
    Role.register description guard stage.store = .ok (role, later) →
    (∀ known ∈ stage.roles, known.id ≠ role.id) ∧
      ∀ wrapper ∈ stage.wrappers, wrapper.aware.hasRole role = false

theorem Stage.IsSound.isNominal {stage : Stage} (sound : stage.IsSound) : stage.IsNominal := by
  have unknown {description : String} {guard : Object → Bool} {role : Role} {later : Store}
      (made : Role.register description guard stage.store = .ok (role, later)) :
      ∀ known ∈ stage.roles, known.id ≠ role.id := by
    intro known member same
    have numbered := sound.numbered known member
    rw [same, (Role.register_eq_ok_iff.mp made).2.1] at numbered
    exact Nat.lt_irrefl _ numbered
  refine ⟨sound.distinct, fun _ member _ known => sound.treats member known, ?_,
    fun _ reaches => reaches.develops, fun _ _ differs role => getElem?_attach_of_ne differs role,
    ?_⟩
  · intro wrapper member other otherMember sameBase sameAttempts
    rw [sound.traced wrapper member, sound.traced other otherMember, sameBase]
    exact RoleAware.attachAll_eq_of_mem_iff (RoleAware.ascends_wrap _) sameAttempts
  · intro description guard role later made
    refine ⟨unknown made, ?_⟩
    intro wrapper member
    rw [Bool.eq_false_iff, ne_eq, sound.traced wrapper member, RoleAware.hasRole_iff,
      RoleAware.mem_roles_attachAll_iff]
    rintro (atFirst | ⟨attempted, attempt, _, same⟩)
    · simp [RoleAware.wrap] at atFirst
    · exact unknown made attempted (sound.registered wrapper member attempted attempt) same

/-- A call under the name through the view is a call of one function, which is always there. -/
def Protocol.Offers (protocol : Protocol) (name : String) : Prop :=
  ∃ callee, protocol.method? name = some callee ∧
    ∀ (depth : Nat) (arguments : List Value) (store : Store),
      store.run depth (protocol.invoke name arguments) = store.call depth callee arguments

theorem Protocol.offers_of_hasMethods {protocol : Protocol} {names : List String}
    (has : Role.hasMethods names protocol.object = true) {name : String} (listed : name ∈ names) :
    protocol.Offers name := by
  have isThere := List.all_eq_true.mp has name listed
  rcases Option.isSome_iff_exists.mp isThere with ⟨callee, found⟩
  refine ⟨callee, found, ?_⟩
  intro depth arguments store
  simp only [Protocol.invoke, Object.invoke, found, Program.tailCall, Store.call]

/-- At every stage, a wrapper has exactly the roles that were attempted on it and that admit its
object, in whatever order and however often, and it never loses one. A list of methods makes a role
unless it is empty, and every view through such a role offers each of its methods. -/
theorem roles_are_nominal_and_backed {store : Store} {stage : Stage}
    (reached : (Stage.start store).Reaches stage) :
    stage.IsNominal ∧
    ∀ description names before,
      ((∃ role after, Role.ofMethods description names before = .ok (role, after)) ↔
        names ≠ []) ∧
      ∀ role after, Role.ofMethods description names before = .ok (role, after) →
        role ∈ stage.roles → ∀ protocol ∈ stage.protocols, protocol.role = role.id →
          ∀ name ∈ names, protocol.Offers name := by
  have sound := Stage.IsSound.of_reaches reached
  refine ⟨sound.isNominal, ?_⟩
  intro description names before
  refine ⟨?_, ?_⟩
  · rw [← Role.hasMethods_probe_eq_false_iff]
    simp only [Role.ofMethods, Role.register_eq_ok_iff]
    exact ⟨fun ⟨_, _, rejects, _⟩ => rejects, fun rejects => ⟨_, _, rejects, rfl, rfl⟩⟩
  · intro role after made known protocol handed sameRole name listed
    rcases sound.admitted protocol handed with ⟨other, otherKnown, sameId, admits⟩
    have same : other = role :=
      List.inj_on_of_nodup_map sound.distinct otherKnown known (sameId.trans sameRole)
    have guard : role.guard = Role.hasMethods names := by
      rw [(Role.register_eq_ok_iff.mp made).2.1]
    rw [same, guard] at admits
    exact Protocol.offers_of_hasMethods admits listed

/-- Two roles are made from the same list of methods, and one of them is attached to a wrapper. The
wrapper has this role and not its twin, and the view offers the listed method. -/
theorem roles_are_nominal_and_backed_of_twins :
    let guard := Role.hasMethods ["greet"]
    let role : Role := ⟨⟨0⟩, "Greeter", guard⟩
    let twin : Role := ⟨⟨1⟩, "Greeter", guard⟩
    let base := Object.empty.insert "greet" (.function ⟨0⟩)
    let aware := (RoleAware.wrap base).attach role
    let view : Protocol := ⟨⟨0⟩, Object.layeredOver base⟩
    ∃ stage, (Stage.start Store.empty).Reaches stage ∧ stage.roles = [twin, role] ∧
      stage.wrappers = [⟨base, [role], aware⟩] ∧ stage.protocols = [view] ∧
      stage.IsNominal ∧ aware.hasRole role = true ∧ aware.hasRole twin = false ∧
      view.Offers "greet" := by
  intro guard role twin base aware view
  let empty : Stage := .start Store.empty
  let first : Stage := { empty with store.roleCount := 1, roles := [role] }
  let second : Stage := { first with store.roleCount := 2, roles := [twin, role] }
  let third : Stage := { second with wrappers := [.wrap base] }
  let stage : Stage := { third with wrappers := [⟨base, [role], aware⟩], protocols := [view] }
  have firstMade : empty.Step first := .register "Greeter" guard rfl
  have secondMade : first.Step second := .register "Greeter" guard rfl
  have wrapped : second.Step third := .wrap base
  have attached : third.Step stage := .attach 0 (by simp [third, second])
  have reached : empty.Reaches stage :=
    (((Relation.ReflTransGen.single firstMade).tail secondMade).tail wrapped).tail attached
  rcases roles_are_nominal_and_backed reached with ⟨nominal, backed⟩
  have treats (known : Role) (member : known ∈ stage.roles) :=
    nominal.treats ⟨base, [role], aware⟩ (by simp [stage]) known member
  refine ⟨stage, reached, rfl, rfl, rfl, nominal, ?_, ?_, ?_⟩
  · exact (treats role (by simp [stage, third, second])).hasRole.mpr ⟨by simp, rfl⟩
  · rw [Bool.eq_false_iff]
    intro has
    have plays := (treats twin (by simp [stage, third, second])).hasRole.mp has
    simp [Wrapper.Plays, twin, role] at plays
  · exact (backed "Greeter" ["greet"] Store.empty).2 role _ rfl (by simp [stage, third, second])
      view (by simp [stage]) rfl "greet" (by simp)

end CallContracts
