import Rbac.Context
import Rbac.Json.Writer
import Rbac.Record

namespace Rbac

namespace Change

def auditAction : Change → String × String
  | .roleCreated .. => ("role.created", "Role")
  | .roleUpdated .. => ("role.updated", "Role")
  | .roleDeleted .. => ("role.deleted", "Role")
  | .assignmentCreated .. => ("role_assignment.created", "RoleAssignment")
  | .assignmentRevoked .. => ("role_assignment.revoked", "RoleAssignment")

end Change

/-- All fields of an event in the order in which they are declared, the moment first. -/
def Event.details (event : Event) : Json :=
  .obj (("occurred_at", .str event.occurredAt.spacedText) :: event.change.fields)

structure AuditEntry where
  user : Uuid
  action : String
  entityType : String
  entity : Uuid
  service : String
  details : String
  scope : Option Scope
  correlation : Option String
deriving DecidableEq

namespace AuditEntry

/-- The longest correlation id that is passed on; a longer one is cut. -/
def correlationLimit : Nat := 100

/-- An empty correlation id counts as none. -/
def correlationOf (correlation : Option String) : Option String :=
  (correlation.filter (!·.isEmpty)).map fun text =>
    String.ofList (text.toList.take correlationLimit)

def ofEvent (event : Event) (actor : Uuid) (service : String) (correlation : Option String) :
    AuditEntry :=
  let (action, entityType) := event.change.auditAction
  { user := actor, action, entityType, entity := event.entityId, service,
    details := event.details.text, scope := event.scope?,
    correlation := correlationOf correlation }

/-- The member that carries the scope's id: its name says the scope's type. -/
def scopeMember (scope : Scope) : Text × Json :=
  match scope.type with
  | .organization => ("organizationId", .str scope.id.text)
  | .workspace => ("workspaceId", .str scope.id.text)

def correlationMember (correlation : String) : Text × Json :=
  ("correlationId", .str correlation)

def toJson (entry : AuditEntry) : Json :=
  let members : List (Text × Json) := [
    ("userId", .str entry.user.text),
    ("action", .str entry.action),
    ("entityType", .str entry.entityType),
    ("entityId", .str entry.entity.text),
    ("serviceName", .str entry.service),
    ("details", .str entry.details)]
  .obj (members ++ entry.scope.toList.map scopeMember
    ++ entry.correlation.toList.map correlationMember)

end AuditEntry
end Rbac
