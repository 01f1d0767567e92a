import Rbac.Sql.Session
import Rbac.Transaction

namespace Rbac.Sql

namespace Repository

def permissionsOf (roles : List Uuid) : Session (List Permission) :=
  if roles.isEmpty then pure [] else Session.query (.selectPermissions roles)

def ownedBy (permissions : List Permission) (role : Uuid) : List Permission :=
  permissions.filter fun permission => permission.role = role

def findRole (id : Uuid) : Session (Option Role) := do
  let rows : List RoleRow ← Session.query (.selectRole id)
  match rows with
  | [] => return none
  | row :: _ =>
    let permissions ← permissionsOf [row.id]
    return some (← Session.ofExcept (row.toRole (ownedBy permissions row.id)))

def rolesIn (scope : Scope) : Session (List Role) := do
  let rows : List RoleRow ← Session.query (.selectRolesIn scope)
  let permissions ← permissionsOf (rows.map (·.id))
  Session.ofExcept (rows.mapM fun row => row.toRole (ownedBy permissions row.id))

def nameTaken (name : Text) (scope : Scope) (except : Option Uuid) : Session Bool := do
  let rows ← Session.query (.findRoleName name scope except)
  return !rows.isEmpty

def insertPermissions (permissions : List Permission) : Session Unit :=
  if permissions.isEmpty then pure () else Session.execute (.insertPermissions permissions)

def insertRole (role : Role) : Session Unit := do
  Session.executeUnique (.insertRole (.ofRole role)) (.nameTaken role.name)
  insertPermissions role.permissions

/-- Writes the role's fields and makes the stored permissions match its own. -/
def saveRole (role : Role) : Session Unit := do
  Session.executeUnique (.updateRole role.id role.name role.description role.updatedAt)
    (.nameTaken role.name)
  Session.execute (.trimPermissions role.id role.actions)
  insertPermissions role.permissions

/-- The grants that the joined rows of a statement stand for. Their roles are asked for as a set. -/
def loadGrants (rows : List (AssignmentRow × RoleRow)) : Session (List Grant) := do
  let permissions ← permissionsOf (rows.map (·.1.role)).eraseDups
  Session.ofExcept <| rows.mapM fun (row, roleRow) => do
    let assignment ← row.toAssignment
    let role ← roleRow.toRole (ownedBy permissions row.role)
    return ⟨assignment, some role⟩

def findAssignment (id : Uuid) : Session (Option Grant) := do
  let grants ← loadGrants (← Session.query (.selectAssignment id))
  return grants.head?

def grantOf (role user scopeId : Uuid) : Session (Option Grant) := do
  let grants ← loadGrants (← Session.query (.selectAssignmentOf role user scopeId))
  return grants.head?

def grantsOf (user scopeId : Uuid) : Session (List Grant) := do
  loadGrants (← Session.query (.selectAssignmentsOf user scopeId))

def isAssigned (role user scopeId : Uuid) : Session Bool := do
  let rows ← Session.query (.findAssignment role user scopeId)
  return !rows.isEmpty

def countByRole (role : Uuid) : Session Cell := do
  let rows : List Cell ← Session.query (.countAssignments role)
  return rows.headD (.int 0)

/-- A cell as a number of records. Whether there are any is then asked of it, so that it has to
compare with a number. -/
def countOf (cell : Cell) : Except Failure Nat :=
  match cell with
  | .int value => .ok value.toNat
  | .bool value => .ok value.toNat
  | .real value => .ok (if value.le .zero then 0 else 1)
  | cell => .error (.wrongType
    s!"'>' not supported between instances of {Text.quoted cell.kind} and 'int'")

def insertAssignment (assignment : Assignment) : Session Unit :=
  Session.executeUnique (.insertAssignment (.ofAssignment assignment)) .alreadyAssigned

end Repository

def ofOperation : (operation : Operation) → Session operation.Answer
  | .findRole id => Repository.findRole id
  | .rolesIn scope => Repository.rolesIn scope
  | .nameTaken name scope except => Repository.nameTaken name scope except
  | .insertRole role => Repository.insertRole role
  | .keepRole _ => .done ()
  | .saveRole role => Repository.saveRole role
  | .deleteRole id => Session.execute (.deleteRole id)
  | .findAssignment id => Repository.findAssignment id
  | .grantOf role user scopeId => Repository.grantOf role user scopeId
  | .isAssigned role user scopeId => Repository.isAssigned role user scopeId
  | .grantsOf user scopeId => Repository.grantsOf user scopeId
  | .countByRole role => do
    Session.ofExcept (Repository.countOf (← Repository.countByRole role))
  | .insertAssignment assignment => Repository.insertAssignment assignment
  | .deleteAssignment id => Session.execute (.deleteAssignment id)

/-- The session of a transaction: its second meaning. -/
def ofTransaction {α : Type} : Transaction α → Session α
  | .done value => .done value
  | .fail failure => .fail failure
  | .draw next => .draw fun id => ofTransaction (next id)
  | .ask operation next => (ofOperation operation).bind fun answer => ofTransaction (next answer)

end Rbac.Sql
