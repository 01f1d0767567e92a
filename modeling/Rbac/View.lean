import Rbac.Assignment
import Rbac.Json.Basic

namespace Rbac

structure RoleView where
  id : Uuid
  name : Text
  description : Option Text
  scope : Scope
  isSystem : Bool
  permissions : List Text
  createdAt : Instant
  updatedAt : Option Instant
deriving DecidableEq

structure AssignmentView where
  id : Uuid
  role : Uuid
  roleName : Text
  user : Uuid
  scope : Scope
  assignedAt : Instant
  assignedBy : Uuid
deriving DecidableEq

structure CheckView where
  hasPermission : Bool
  user : Uuid
  scopeId : Uuid
  permission : Text
deriving DecidableEq

def Role.view (role : Role) : RoleView :=
  { id := role.id, name := role.name, description := role.description, scope := role.scope,
    isSystem := role.isSystem, permissions := role.actions, createdAt := role.createdAt,
    updatedAt := role.updatedAt }

/-- An assignment is shown with its role's name, so the role has to be loaded. -/
def Grant.view (grant : Grant) : Except Failure AssignmentView :=
  match grant.role with
  | none => .error .roleNotLoaded
  | some role =>
    let assignment := grant.assignment
    .ok { id := assignment.id, role := assignment.role, roleName := role.name,
          user := assignment.user, scope := assignment.scope, assignedAt := assignment.assignedAt,
          assignedBy := assignment.assignedBy }

def RoleView.toJson (view : RoleView) : Json :=
  .obj [
    ("id", .str view.id.text),
    ("name", .str view.name),
    ("description", .ofText? view.description),
    ("scopeId", .str view.scope.id.text),
    ("scopeType", .str view.scope.type.text),
    ("isSystem", .bool view.isSystem),
    ("permissions", .ofTexts view.permissions),
    ("createdAt", .str view.createdAt.responseText),
    ("updatedAt", .ofText? (view.updatedAt.map fun moment => moment.responseText))]

def AssignmentView.toJson (view : AssignmentView) : Json :=
  .obj [
    ("id", .str view.id.text),
    ("roleId", .str view.role.text),
    ("roleName", .str view.roleName),
    ("userId", .str view.user.text),
    ("scopeId", .str view.scope.id.text),
    ("scopeType", .str view.scope.type.text),
    ("assignedAt", .str view.assignedAt.responseText),
    ("assignedBy", .str view.assignedBy.text)]

def CheckView.toJson (view : CheckView) : Json :=
  .obj [
    ("hasPermission", .bool view.hasPermission),
    ("userId", .str view.user.text),
    ("scopeId", .str view.scopeId.text),
    ("permission", .str view.permission)]

/-- What a request that succeeds answers. -/
inductive Answer where
  | nothing
  | role (view : RoleView)
  | roles (views : List RoleView)
  | assignment (view : AssignmentView)
  | check (view : CheckView)
  | actions (held : List Text)
deriving DecidableEq

def Answer.toJson : Answer → Json
  | .nothing => .null
  | .role view => view.toJson
  | .roles views => .arr (views.map (·.toJson))
  | .assignment view => view.toJson
  | .check view => view.toJson
  | .actions held => .ofTexts held

/-- The outcome of a request that succeeds: of a query the value alone, of a write also the events
that were committed with it. -/
structure Outcome (α : Type) where
  value : α
  events : Option (List Event)
deriving DecidableEq

namespace Outcome

def query {α : Type} (value : α) : Outcome α := ⟨value, none⟩
def written {α : Type} (value : α) (events : List Event) : Outcome α := ⟨value, some events⟩

end Outcome
end Rbac
