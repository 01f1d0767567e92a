import Rbac.Clock
import Rbac.Event
import Rbac.Failure
import Rbac.Supply

namespace Rbac

/-- An allowed action, owned by one role. -/
structure Permission where
  id : Uuid
  role : Uuid
  action : Text
  createdAt : Instant
deriving DecidableEq

/-- A new permission; a blank action is refused before an id is drawn. -/
def Permission.create (role : Uuid) (action : Text) (now : Instant) :
    Draw (Except Failure Permission) :=
  if Text.isBlank action then pure (.error .emptyAction)
  else do
    let id ← Draw.fresh
    return .ok ⟨id, role, action, now⟩

structure Role where
  id : Uuid
  name : Text
  scope : Scope
  createdAt : Instant
  description : Option Text := none
  isSystem : Bool := false
  updatedAt : Option Instant := none
  permissions : List Permission := []
deriving DecidableEq

namespace Role

def create (name : Text) (description : Option Text) (scope : Scope) (clock : Clock) :
    Draw (Role × Event) := do
  let id ← Draw.fresh
  return ({ id, name, scope, createdAt := clock.reading 0, description },
    ⟨clock.reading 1, .roleCreated id name scope⟩)

/-- The actions in the order in which they were added. -/
def actions (role : Role) : List Text :=
  role.permissions.map (·.action)

def has (role : Role) (action : Text) : Bool :=
  role.permissions.any (·.action == action)

def update (role : Role) (name : Text) (description : Option Text) (clock : Clock) :
    Except Failure (Role × Event) :=
  if role.isSystem then .error .systemRoleUpdate
  else
    .ok ({ role with name, description, updatedAt := some (clock.reading 0) },
      ⟨clock.reading 1, .roleUpdated role.id name⟩)

def add (role : Role) (action : Text) (now : Instant) : Draw (Except Failure Permission × Role) :=
  if role.isSystem then pure (.error .systemRolePermissions, role)
  else if role.has action then pure (.error (.actionPresent action), role)
  else do
    match ← Permission.create role.id action now with
    | .error failure => return (.error failure, role)
    | .ok permission =>
      return (.ok permission, { role with permissions := role.permissions ++ [permission] })

/-- Drops the first permission with the action. -/
def remove (role : Role) (action : Text) : Except Failure Role :=
  if role.isSystem then .error .systemRolePermissions
  else if role.has action then
    .ok { role with permissions := role.permissions.eraseP (·.action == action) }
  else .error (.actionAbsent action)

/-- Removes actions one by one, up to the first that is refused. -/
def removeEach (role : Role) : List Text → Except Failure Unit × Role
  | [] => (.ok (), role)
  | action :: rest =>
    match role.remove action with
    | .error failure => (.error failure, role)
    | .ok role => role.removeEach rest

/-- Adds actions one by one, up to the first that is refused. -/
def addEach (role : Role) (clock : Clock) : List Text → Draw (Except Failure Unit × Role)
  | [] => pure (.ok (), role)
  | action :: rest => do
    match ← role.add action (clock.reading 0) with
    | (.error failure, role) => return (.error failure, role)
    | (.ok _, role) => role.addEach (clock.past 1) rest

/-- The requested actions without later repeats. -/
def wanted (requested : List Text) : List Text :=
  requested.eraseDups

/-- The current actions that are not requested, with multiplicity. -/
def surplus (role : Role) (requested : List Text) : List Text :=
  role.actions.filter fun action => !(wanted requested).contains action

def missing (role : Role) (requested : List Text) : List Text :=
  (wanted requested).filter fun action => !role.actions.contains action

/-- Makes the actions equal to the requested ones: first the surplus goes, then what is missing
comes. Answers with what was added and what was removed. -/
def sync (role : Role) (requested : List Text) (clock : Clock) :
    Draw (Except Failure (List Text × List Text) × Role) :=
  let removed := role.surplus requested
  let added := role.missing requested
  match role.removeEach removed with
  | (.error failure, role) => pure (.error failure, role)
  | (.ok _, role) => do
    match ← role.addEach clock added with
    | (.error failure, role) => return (.error failure, role)
    | (.ok _, role) => return (.ok (added, removed), role)

def delete (role : Role) (now : Instant) : Except Failure Event :=
  if role.isSystem then .error .systemRoleDelete
  else .ok ⟨now, .roleDeleted role.id⟩

end Role
end Rbac
