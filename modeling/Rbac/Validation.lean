import Rbac.Failure
import Rbac.Pattern.Reader
import Rbac.Request

namespace Rbac

abbrev Breach := String × String

namespace Validation

def nameLimit : Nat := 100
def descriptionLimit : Nat := 500
def permissionLimit : Nat := 200

/-- Segments of lower-case words, joined by single points or colons. -/
def defaultPatternText : String :=
  "^[a-z][a-z0-9_]*([.:][a-z][a-z0-9_]*)*$"

def id (field : String) (value : Uuid) : List Breach :=
  if value.isNil then [(field, s!"'{field}' must not be empty.")] else []

def text (field : String) (limit : Nat) (value : Text) : List Breach :=
  if Text.isBlank value then [(field, s!"'{field}' must not be empty.")]
  else if limit < value.length then [(field, s!"'{field}' must be {limit} characters or fewer.")]
  else []

def description (value : Option Text) : List Breach :=
  match value with
  | some value =>
    if descriptionLimit < value.length then
      [("description", s!"'description' must be {descriptionLimit} characters or fewer.")]
    else []
  | none => []

/-- The first rule that an action breaks: blank, too long, not of the pattern. -/
def actionMessage? (pattern : Pattern) (action : Text) : Option String :=
  if Text.isBlank action then some "Permission must not be empty."
  else if permissionLimit < action.length then
    some s!"Permission must be {permissionLimit} characters or fewer."
  else if pattern.accepts action then none
  else some "Permission must be a lowercase action such as 'reports.view' or 'document:read'."

def actionsFrom (pattern : Pattern) (index : Nat) : List Text → List Breach
  | [] => []
  | action :: rest =>
    let here := (actionMessage? pattern action).toList.map fun message =>
      (s!"permissions[{index}]", message)
    here ++ actionsFrom pattern (index + 1) rest

def actions (pattern : Pattern) (values : List Text) : List Breach :=
  actionsFrom pattern 0 values

def createRole (pattern : Pattern) (command : CreateRole) : List Breach :=
  text "name" nameLimit command.name ++ description command.description
    ++ id "scopeId" command.scope.id ++ actions pattern command.permissions

def updateRole (pattern : Pattern) (command : UpdateRole) : List Breach :=
  id "id" command.id ++ text "name" nameLimit command.name ++ description command.description
    ++ actions pattern command.permissions

def assignRole (command : AssignRole) : List Breach :=
  id "roleId" command.role ++ id "userId" command.user ++ id "scopeId" command.scope.id
    ++ id "assignedBy" command.assignedBy

def revokeRole (command : RevokeRole) : List Breach :=
  id "roleId" command.role ++ id "userId" command.user ++ id "scopeId" command.scopeId

def checkPermission (query : CheckPermission) : List Breach :=
  id "userId" query.user ++ id "scopeId" query.scopeId
    ++ text "permission" permissionLimit query.permission

def userPermissions (query : UserPermissions) : List Breach :=
  id "userId" query.user ++ id "scopeId" query.scopeId

/-- The rules of a request. Deleting, getting and listing roles have none. -/
def breaches (pattern : Pattern) : Request → List Breach
  | .createRole command => createRole pattern command
  | .updateRole command => updateRole pattern command
  | .assignRole command => assignRole command
  | .revokeRole command => revokeRole command
  | .checkPermission query => checkPermission query
  | .userPermissions query => userPermissions query
  | .deleteRole _ | .getRole _ | .listRoles _ => []

/-- The validators registered for a request type: one, or none where there are no rules. -/
def validators (pattern : Pattern) : RequestType → List (Request → List Breach)
  | .deleteRole | .getRole | .listRoles => []
  | _ => [breaches pattern]

/-- Adds a message under its field; a new field comes at the end. -/
def record (breach : Breach) : List (String × List String) → List (String × List String)
  | [] => [(breach.1, [breach.2])]
  | (field, messages) :: rest =>
    if field = breach.1 then (field, messages ++ [breach.2]) :: rest
    else (field, messages) :: record breach rest

/-- Messages by field: fields in the order of their first breach, messages in order. -/
def group (broken : List Breach) : List (String × List String) :=
  broken.foldl (fun errors breach => record breach errors) []

def check {α : Type} (validators : List (α → List Breach)) (request : α) : Except Failure Unit :=
  match validators.flatMap (· request) with
  | [] => .ok ()
  | broken => .error (.invalid (group broken))

end Validation
end Rbac
