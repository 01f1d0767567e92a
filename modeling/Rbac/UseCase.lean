import Rbac.Request
import Rbac.Text.Order
import Rbac.Transaction
import Rbac.View

namespace Rbac

abbrev UseCase := Transaction (Except Failure (Outcome Answer))

namespace UseCase

def grantEach (role : Role) (actions : List Text) (clock : Clock) : Transaction Role := do
  let (result, role) ← Transaction.ofDraw (role.addEach clock actions)
  Transaction.ofExcept result
  return role

/-- A role's name has to be free in its scope. -/
def createRole (command : CreateRole) (clock : Clock) : UseCase := do
  if ← Transaction.nameTaken command.name command.scope none then
    .fail (.nameTaken command.name)
  else
    let (role, created) ←
      Transaction.ofDraw (Role.create command.name command.description command.scope clock)
    let role ← grantEach role command.permissions (clock.past 2)
    Transaction.insertRole role
    return .ok (.written (.role role.view) [created])

/-- Renames a role and syncs its permissions. Each change counts for the loaded role at once. -/
def updateRole (command : UpdateRole) (clock : Clock) : UseCase := do
  match ← Transaction.findRole command.id with
  | none => .fail (.roleMissing command.id)
  | some role =>
    if ← Transaction.nameTaken command.name role.scope (some role.id) then
      .fail (.nameTaken command.name)
    else
      let (role, updated) ←
        Transaction.ofExcept (role.update command.name command.description clock)
      let (result, role) ← Transaction.ofDraw (role.sync command.permissions (clock.past 2))
      Transaction.keepRole role
      let _ ← Transaction.ofExcept result
      Transaction.saveRole role
      return .ok (.written (.role role.view) [updated])

/-- A role that someone holds is not deleted. -/
def deleteRole (id : Uuid) (clock : Clock) : UseCase := do
  match ← Transaction.findRole id with
  | none => .fail (.roleMissing id)
  | some role =>
    let held ← Transaction.countByRole role.id
    if 0 < held then .fail .roleInUse
    else
      let deleted ← Transaction.ofExcept (role.delete (clock.reading 0))
      Transaction.deleteRole role.id
      return .ok (.written .nothing [deleted])

def assignRole (command : AssignRole) (clock : Clock) : UseCase := do
  match ← Transaction.findRole command.role with
  | none => .fail (.roleMissing command.role)
  | some role =>
    if role.scope ≠ command.scope then .fail .scopeMismatch
    else if ← Transaction.isAssigned command.role command.user command.scope.id then
      .fail .alreadyAssigned
    else
      let (assignment, created) ← Transaction.ofDraw
        (Assignment.create command.role command.user command.scope command.assignedBy clock)
      Transaction.insertAssignment assignment
      match ← Transaction.findAssignment assignment.id with
      | none => .fail (.assignmentMissing assignment.id)
      | some saved => return saved.view.map fun view => .written (.assignment view) [created]

def revokeRole (command : RevokeRole) (clock : Clock) : UseCase := do
  match ← Transaction.grantOf command.role command.user command.scopeId with
  | none => .fail (.grantMissing command.role command.user command.scopeId)
  | some grant =>
    Transaction.deleteAssignment grant.assignment.id
    return .ok (.written .nothing [grant.assignment.revoke (clock.reading 0)])

def getRole (id : Uuid) : UseCase := do
  match ← Transaction.findRole id with
  | none => .fail (.roleMissing id)
  | some role => return .ok (.query (.role role.view))

/-- Roles by name; those of one name keep the order in which they were loaded. -/
def byName (roles : List Role) : List Role :=
  roles.mergeSort fun a b => !Text.before b.name a.name

def listRoles (scope : Scope) : UseCase := do
  let roles ← Transaction.rolesIn scope
  return .ok (.query (.roles ((byName roles).map (·.view))))

def allows (grants : List Grant) (action : Text) : Bool :=
  grants.any fun grant => grant.role.any (·.has action)

/-- Only assignments made in the scope id itself are looked at. -/
def checkPermission (query : CheckPermission) : UseCase := do
  let grants ← Transaction.grantsOf query.user query.scopeId
  return .ok (.query (.check
    ⟨allows grants query.permission, query.user, query.scopeId, query.permission⟩))

/-- The actions of all loaded roles, each where it comes first. -/
def actionsOf (grants : List Grant) : List Text :=
  (grants.flatMap fun grant => grant.role.elim [] (·.actions)).eraseDups

def userPermissions (query : UserPermissions) : UseCase := do
  let grants ← Transaction.grantsOf query.user query.scopeId
  return .ok (.query (.actions (actionsOf grants)))

end UseCase

def Request.useCase (request : Request) (clock : Clock) : UseCase :=
  match request with
  | .createRole command => UseCase.createRole command clock
  | .updateRole command => UseCase.updateRole command clock
  | .deleteRole id => UseCase.deleteRole id clock
  | .assignRole command => UseCase.assignRole command clock
  | .revokeRole command => UseCase.revokeRole command clock
  | .getRole id => UseCase.getRole id
  | .listRoles scope => UseCase.listRoles scope
  | .checkPermission query => UseCase.checkPermission query
  | .userPermissions query => UseCase.userPermissions query

end Rbac
