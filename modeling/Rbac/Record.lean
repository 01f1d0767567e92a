import Rbac.Json.Basic
import Rbac.Assignment

namespace Rbac

def Scope.record (scope : Scope) : Json :=
  .obj [("type", .str scope.type.text), ("id", .str scope.id.text)]

def Permission.record (permission : Permission) : Json :=
  .obj [
    ("id", .str permission.id.text),
    ("role_id", .str permission.role.text),
    ("action", .str permission.action),
    ("created_at", .str permission.createdAt.text)]

def Role.record (role : Role) : Json :=
  .obj [
    ("id", .str role.id.text),
    ("name", .str role.name),
    ("description", .ofText? role.description),
    ("scope", role.scope.record),
    ("is_system", .bool role.isSystem),
    ("created_at", .str role.createdAt.text),
    ("updated_at", .ofText? (role.updatedAt.map fun moment => moment.text)),
    ("permissions", .arr (role.permissions.map (·.record)))]

def Grant.record (grant : Grant) : Json :=
  let assignment := grant.assignment
  .obj [
    ("id", .str assignment.id.text),
    ("role_id", .str assignment.role.text),
    ("user_id", .str assignment.user.text),
    ("scope", assignment.scope.record),
    ("assigned_at", .str assignment.assignedAt.text),
    ("assigned_by", .str assignment.assignedBy.text),
    ("role", .ofText? (grant.role.map (·.name)))]

def Change.fields : Change → List (Text × Json)
  | .roleCreated role name scope =>
    [("role_id", .str role.text), ("role_name", .str name), ("scope", scope.record)]
  | .roleUpdated role name => [("role_id", .str role.text), ("role_name", .str name)]
  | .roleDeleted role => [("role_id", .str role.text)]
  | .assignmentCreated assignment role user scope assignedBy =>
    [("assignment_id", .str assignment.text), ("role_id", .str role.text),
     ("user_id", .str user.text), ("scope", scope.record), ("assigned_by", .str assignedBy.text)]
  | .assignmentRevoked assignment role user scope =>
    [("assignment_id", .str assignment.text), ("role_id", .str role.text),
     ("user_id", .str user.text), ("scope", scope.record)]

def Event.record (event : Event) : Json :=
  .obj (("event", .str event.name) :: ("occurred_at", .str event.occurredAt.text)
    :: event.change.fields)

end Rbac
