import Rbac.Scope

namespace Rbac

structure CreateRole where
  name : Text
  scope : Scope
  description : Option Text := none
  permissions : List Text := []
deriving DecidableEq

/-- The permissions are the whole target set. -/
structure UpdateRole where
  id : Uuid
  name : Text
  description : Option Text := none
  permissions : List Text := []
deriving DecidableEq

structure AssignRole where
  role : Uuid
  user : Uuid
  scope : Scope
  assignedBy : Uuid
deriving DecidableEq

structure RevokeRole where
  role : Uuid
  user : Uuid
  scopeId : Uuid
deriving DecidableEq

structure CheckPermission where
  user : Uuid
  scopeId : Uuid
  permission : Text
deriving DecidableEq

structure UserPermissions where
  user : Uuid
  scopeId : Uuid
deriving DecidableEq

inductive Request where
  | createRole (command : CreateRole)
  | updateRole (command : UpdateRole)
  | deleteRole (id : Uuid)
  | assignRole (command : AssignRole)
  | revokeRole (command : RevokeRole)
  | getRole (id : Uuid)
  | listRoles (scope : Scope)
  | checkPermission (query : CheckPermission)
  | userPermissions (query : UserPermissions)
deriving DecidableEq

/-- The types of requests. -/
inductive RequestType where
  | createRole
  | updateRole
  | deleteRole
  | assignRole
  | revokeRole
  | getRole
  | listRoles
  | checkPermission
  | userPermissions
deriving DecidableEq, Repr

def Request.type : Request → RequestType
  | .createRole _ => .createRole
  | .updateRole _ => .updateRole
  | .deleteRole _ => .deleteRole
  | .assignRole _ => .assignRole
  | .revokeRole _ => .revokeRole
  | .getRole _ => .getRole
  | .listRoles _ => .listRoles
  | .checkPermission _ => .checkPermission
  | .userPermissions _ => .userPermissions

def RequestType.name : RequestType → String
  | .createRole => "CreateRoleCommand"
  | .updateRole => "UpdateRoleCommand"
  | .deleteRole => "DeleteRoleCommand"
  | .assignRole => "AssignRoleCommand"
  | .revokeRole => "RevokeRoleCommand"
  | .getRole => "GetRoleQuery"
  | .listRoles => "ListRolesByScopeQuery"
  | .checkPermission => "CheckPermissionQuery"
  | .userPermissions => "GetUserPermissionsQuery"

end Rbac
