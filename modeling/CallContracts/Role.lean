import CallContracts.Store

/-!
# Roles

A role is a named capability: a guard that looks at an object, and an identity of its own, so that
two roles with the same guard are still different. An object gains a role by attaching it to a
wrapper, which works if the guard admits the object; the wrapper can then be viewed through the
role.
-/

namespace CallContracts

/-- The identity of a role. -/
structure RoleId where
  index : Nat
  deriving DecidableEq

/-- A named capability. -/
structure Role where
  id : RoleId
  description : String
  /-- Whether the role admits an object. -/
  guard : Object → Bool

namespace Role

def probeKey : String := "__quack_probe__"

/-- An object whose only member is no function. A guard that admits it insists on no methods. -/
def probe : Object :=
  Object.empty.insert probeKey .null

/-- Makes a role under a new identity, unless its guard admits the probe. -/
def register (description : String) (guard : Object → Bool) (store : Store) :
    Except Fault (Role × Store) :=
  if guard probe then .error (.unguardedRole description probeKey)
  else
    .ok (⟨⟨store.roleCount⟩, description, guard⟩, { store with roleCount := store.roleCount + 1 })

/-- The guard that asks for a function under each of several names. -/
def hasMethods (names : List String) (object : Object) : Bool :=
  names.all fun name => (object.method? name).isSome

/-- Makes a role that admits the objects with a function under each of several names. -/
def ofMethods (description : String) (names : List String) (store : Store) :
    Except Fault (Role × Store) :=
  register description (hasMethods names) store

end Role

/-- An object viewed through a role that it has. -/
structure Protocol where
  role : RoleId
  object : Object

namespace Protocol

def method? (protocol : Protocol) (name : String) : Option CallableId :=
  protocol.object.method? name

def invoke (protocol : Protocol) (name : String) (arguments : List Value) : Program :=
  protocol.object.invoke name arguments

end Protocol

/-- A layer over an object, and the roles that were attached to this wrapper. -/
structure RoleAware where
  object : Object
  /-- The attached roles in the order of their identities. -/
  roles : List RoleId

namespace RoleAware

/-- A wrapper of `object` without roles. -/
def wrap (object : Object) : RoleAware :=
  ⟨Object.layeredOver object, []⟩

/-- `roles` with `role` at its place, unless it is there already. -/
def insertRole (role : RoleId) : List RoleId → List RoleId
  | [] => [role]
  | other :: roles =>
    if role.index < other.index then role :: other :: roles
    else if role = other then other :: roles
    else other :: insertRole role roles

def hasRole (aware : RoleAware) (role : Role) : Bool :=
  aware.roles.contains role.id

/-- The object viewed through a role, if the role is attached. -/
def implements? (aware : RoleAware) (role : Role) : Option Protocol :=
  if aware.hasRole role then some ⟨role.id, aware.object⟩ else none

/-- The wrapper with a role attached, if the role admits the object, and as it is otherwise. -/
def attach (aware : RoleAware) (role : Role) : RoleAware :=
  if role.guard aware.object then { aware with roles := insertRole role.id aware.roles } else aware

/-- What attaching a role yields: the object viewed through it, if the role admits the object. -/
def attached? (aware : RoleAware) (role : Role) : Option Protocol :=
  if role.guard aware.object then (aware.attach role).implements? role else none

/-- The object viewed through a role that must be attached. -/
def ensureImplements (aware : RoleAware) (role : Role) : Except Fault Protocol :=
  match aware.implements? role with
  | some protocol => .ok protocol
  | none => .error (.roleNotImplemented role.description)

end RoleAware

end CallContracts
