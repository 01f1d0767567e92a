import Rbac.Instant
import Rbac.Scope
import Rbac.Text.Quoted

namespace Rbac

inductive Change where
  | roleCreated (role : Uuid) (name : Text) (scope : Scope)
  | roleUpdated (role : Uuid) (name : Text)
  | roleDeleted (role : Uuid)
  | assignmentCreated (assignment role user : Uuid) (scope : Scope) (assignedBy : Uuid)
  | assignmentRevoked (assignment role user : Uuid) (scope : Scope)
deriving DecidableEq

structure Event where
  occurredAt : Instant
  change : Change
deriving DecidableEq

namespace Event

def name (event : Event) : String :=
  match event.change with
  | .roleCreated .. => "RoleCreated"
  | .roleUpdated .. => "RoleUpdated"
  | .roleDeleted .. => "RoleDeleted"
  | .assignmentCreated .. => "RoleAssignmentCreated"
  | .assignmentRevoked .. => "RoleAssignmentRevoked"

def entityId (event : Event) : Uuid :=
  match event.change with
  | .roleCreated role .. | .roleUpdated role _ | .roleDeleted role => role
  | .assignmentCreated assignment .. | .assignmentRevoked assignment .. => assignment

def scope? (event : Event) : Option Scope :=
  match event.change with
  | .roleCreated _ _ scope | .assignmentCreated _ _ _ scope _ | .assignmentRevoked _ _ _ scope =>
    some scope
  | .roleUpdated .. | .roleDeleted _ => none

/-- The fields of the change as they read inside the text of a value, in the order in which they are
declared. -/
def shownFields (event : Event) : List (String × String) :=
  match event.change with
  | .roleCreated role name scope =>
    [("role_id", role.shown), ("role_name", Text.quoted name), ("scope", scope.shown)]
  | .roleUpdated role name => [("role_id", role.shown), ("role_name", Text.quoted name)]
  | .roleDeleted role => [("role_id", role.shown)]
  | .assignmentCreated assignment role user scope assignedBy =>
    [("assignment_id", assignment.shown), ("role_id", role.shown), ("user_id", user.shown),
      ("scope", scope.shown), ("assigned_by", assignedBy.shown)]
  | .assignmentRevoked assignment role user scope =>
    [("assignment_id", assignment.shown), ("role_id", role.shown), ("user_id", user.shown),
      ("scope", scope.shown)]

/-- How an event reads in the log. -/
def shown (event : Event) : String :=
  let fields := ("occurred_at", event.occurredAt.shown) :: event.shownFields
  let parts := fields.map fun (name, value) => name ++ "=" ++ value
  event.name ++ "(" ++ ", ".intercalate parts ++ ")"

end Event
end Rbac
