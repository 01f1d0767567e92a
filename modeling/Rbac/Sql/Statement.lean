import Rbac.Assignment
import Rbac.Number.Binary

namespace Rbac.Sql

/-- A value in a row or a parameter. -/
inductive Cell where
  | null
  | bool (value : Bool)
  | int (value : Int)
  | real (value : Number.Binary)
  | text (value : Text)
  | id (value : Uuid)
  | moment (value : Instant)
deriving DecidableEq

def Cell.kind : Cell → String
  | .null => "NoneType"
  | .bool _ => "bool"
  | .int _ => "int"
  | .real _ => "float"
  | .text _ => "str"
  | .id _ => "UUID"
  | .moment _ => "datetime.datetime"

def Cell.ofText? (value : Option Text) : Cell :=
  value.elim .null .text

def Cell.ofMoment? (value : Option Instant) : Cell :=
  value.elim .null .moment

/-- A parameter: one value, or a list of values of one type. -/
inductive Param where
  | cell (value : Cell)
  | ids (values : List Uuid)
  | texts (values : List Text)
deriving DecidableEq

/-- A row of the table of roles. Its scope type is text as the database holds it. -/
structure RoleRow where
  id : Uuid
  name : Text
  description : Option Text
  scopeId : Uuid
  scopeType : Text
  isSystem : Bool
  createdAt : Instant
  updatedAt : Option Instant
deriving DecidableEq

/-- A row of the table of assignments. -/
structure AssignmentRow where
  id : Uuid
  role : Uuid
  user : Uuid
  scopeId : Uuid
  scopeType : Text
  assignedAt : Instant
  assignedBy : Uuid
deriving DecidableEq

/-- The scope of a row; its type is read as leniently as any. -/
def scopeOf (type : Text) (id : Uuid) : Except Failure Scope :=
  match ScopeType.read? type with
  | some type => .ok ⟨type, id⟩
  | none => .error (.unknownScopeType type)

namespace RoleRow

def ofRole (role : Role) : RoleRow :=
  { id := role.id, name := role.name, description := role.description, scopeId := role.scope.id,
    scopeType := role.scope.type.text, isSystem := role.isSystem, createdAt := role.createdAt,
    updatedAt := role.updatedAt }

def toRole (row : RoleRow) (permissions : List Permission) : Except Failure Role := do
  let scope ← scopeOf row.scopeType row.scopeId
  return { id := row.id, name := row.name, scope, createdAt := row.createdAt,
           description := row.description, isSystem := row.isSystem, updatedAt := row.updatedAt,
           permissions }

def cells (row : RoleRow) : List Cell :=
  [.id row.id, .text row.name, .ofText? row.description, .id row.scopeId, .text row.scopeType,
   .bool row.isSystem, .moment row.createdAt, .ofMoment? row.updatedAt]

end RoleRow

namespace AssignmentRow

def ofAssignment (assignment : Assignment) : AssignmentRow :=
  { id := assignment.id, role := assignment.role, user := assignment.user,
    scopeId := assignment.scope.id, scopeType := assignment.scope.type.text,
    assignedAt := assignment.assignedAt, assignedBy := assignment.assignedBy }

def toAssignment (row : AssignmentRow) : Except Failure Assignment := do
  let scope ← scopeOf row.scopeType row.scopeId
  return ⟨row.id, row.role, row.user, scope, row.assignedAt, row.assignedBy⟩

def cells (row : AssignmentRow) : List Cell :=
  [.id row.id, .id row.role, .id row.user, .id row.scopeId, .text row.scopeType,
   .moment row.assignedAt, .id row.assignedBy]

end AssignmentRow

def permissionCells (permission : Permission) : List Cell :=
  [.id permission.id, .id permission.role, .text permission.action, .moment permission.createdAt]

inductive Statement where
  /-- A fixed answer, to see that the connection works. -/
  | ping
  | selectRole (id : Uuid)
  | selectRolesIn (scope : Scope)
  /-- One row if a role of the scope has the name, other than the excepted one. -/
  | findRoleName (name : Text) (scope : Scope) (except : Option Uuid)
  | insertRole (row : RoleRow)
  | updateRole (id : Uuid) (name : Text) (description : Option Text)
      (updatedAt : Option Instant)
  | deleteRole (id : Uuid)
  | selectPermissions (roles : List Uuid)
  /-- Adds each permission whose role does not have the action yet. -/
  | insertPermissions (permissions : List Permission)
  /-- Drops the permissions of a role whose action is not listed. -/
  | trimPermissions (role : Uuid) (actions : List Text)
  | selectAssignment (id : Uuid)
  | selectAssignmentOf (role user scopeId : Uuid)
  | selectAssignmentsOf (user scopeId : Uuid)
  /-- One row if the assignment of the role and the user in the scope id is there. -/
  | findAssignment (role user scopeId : Uuid)
  | countAssignments (role : Uuid)
  | insertAssignment (row : AssignmentRow)
  | deleteAssignment (id : Uuid)

namespace Statement

def Row : Statement → Type
  | .ping | .countAssignments _ => Cell
  | .selectRole _ | .selectRolesIn _ => RoleRow
  | .selectPermissions _ => Permission
  | .selectAssignment _ | .selectAssignmentOf .. | .selectAssignmentsOf .. =>
    AssignmentRow × RoleRow
  | .findRoleName .. | .findAssignment .. | .insertRole _ | .updateRole .. | .deleteRole _
  | .insertPermissions _ | .trimPermissions .. | .insertAssignment _ | .deleteAssignment _ => Unit

def roleColumns : String :=
  "r.id, r.name, r.description, r.scope_id, r.scope_type, r.is_system, r.created_at, r.updated_at"

def selectRoles : String :=
  "SELECT " ++ roleColumns ++ " FROM access_control.roles r"

def selectAssignments : String :=
  "SELECT ra.id, ra.role_id, ra.user_id, ra.scope_id, ra.scope_type, "
    ++ "ra.assigned_at, ra.assigned_by, " ++ roleColumns
    ++ " FROM access_control.role_assignments ra "
    ++ "JOIN access_control.roles r ON r.id = ra.role_id"

/-- The SQL text, with a placeholder for each parameter. -/
def sql : Statement → String
  | .ping => "SELECT 1"
  | .selectRole _ => selectRoles ++ " WHERE r.id = %s"
  | .selectRolesIn _ => selectRoles ++
      " WHERE r.scope_id = %s AND r.scope_type = %s ORDER BY r.name"
  | .findRoleName _ _ except =>
    "SELECT 1 FROM access_control.roles WHERE name = %s AND scope_id = %s AND scope_type = %s"
      ++ (if except.isSome then " AND id <> %s" else "") ++ " LIMIT 1"
  | .insertRole _ =>
    "INSERT INTO access_control.roles "
      ++ "(id, name, description, scope_id, scope_type, is_system, created_at, updated_at) "
      ++ "VALUES (%s, %s, %s, %s, %s, %s, %s, %s)"
  | .updateRole .. =>
    "UPDATE access_control.roles SET name=%s, description=%s, updated_at=%s WHERE id=%s"
  | .deleteRole _ => "DELETE FROM access_control.roles WHERE id = %s"
  | .selectPermissions _ =>
    "SELECT id, role_id, action, created_at FROM access_control.permissions "
      ++ "WHERE role_id = ANY(%s) ORDER BY created_at, id"
  | .insertPermissions _ =>
    "INSERT INTO access_control.permissions (id, role_id, action, created_at) "
      ++ "VALUES (%s, %s, %s, %s) ON CONFLICT (role_id, action) DO NOTHING"
  | .trimPermissions .. =>
    "DELETE FROM access_control.permissions WHERE role_id = %s AND NOT (action = ANY(%s))"
  | .selectAssignment _ => selectAssignments ++ " WHERE ra.id = %s"
  | .selectAssignmentOf .. =>
    selectAssignments ++ " WHERE ra.role_id = %s AND ra.user_id = %s AND ra.scope_id = %s"
  | .selectAssignmentsOf .. =>
    selectAssignments ++ " WHERE ra.user_id = %s AND ra.scope_id = %s ORDER BY ra.assigned_at"
  | .findAssignment .. =>
    "SELECT 1 FROM access_control.role_assignments "
      ++ "WHERE role_id = %s AND user_id = %s AND scope_id = %s LIMIT 1"
  | .countAssignments _ =>
    "SELECT COUNT(*) FROM access_control.role_assignments WHERE role_id = %s"
  | .insertAssignment _ =>
    "INSERT INTO access_control.role_assignments "
      ++ "(id, role_id, user_id, scope_id, scope_type, assigned_at, assigned_by) "
      ++ "VALUES (%s, %s, %s, %s, %s, %s, %s)"
  | .deleteAssignment _ => "DELETE FROM access_control.role_assignments WHERE id = %s"

/-- How the parameters go with the text: not at all, once, or once for each of a batch. -/
inductive Params where
  | none
  | one (params : List Param)
  | batch (rows : List (List Param))
deriving DecidableEq

def ofCells (cells : List Cell) : Params :=
  .one (cells.map .cell)

def params : Statement → Params
  | .ping => .none
  | .selectRole id | .deleteRole id | .selectAssignment id | .deleteAssignment id =>
    ofCells [.id id]
  | .selectRolesIn scope => ofCells [.id scope.id, .text scope.type.text]
  | .findRoleName name scope except =>
    ofCells ([.text name, .id scope.id, .text scope.type.text] ++ except.toList.map .id)
  | .insertRole row => ofCells row.cells
  | .updateRole id name description updatedAt =>
    ofCells [.text name, .ofText? description, .ofMoment? updatedAt, .id id]
  | .selectPermissions roles => .one [.ids roles]
  | .insertPermissions permissions =>
    .batch (permissions.map fun permission => (permissionCells permission).map .cell)
  | .trimPermissions role actions => .one [.cell (.id role), .texts actions]
  | .selectAssignmentOf role user scopeId | .findAssignment role user scopeId =>
    ofCells [.id role, .id user, .id scopeId]
  | .selectAssignmentsOf user scopeId => ofCells [.id user, .id scopeId]
  | .countAssignments role => ofCells [.id role]
  | .insertAssignment row => ofCells row.cells

end Statement
end Rbac.Sql
