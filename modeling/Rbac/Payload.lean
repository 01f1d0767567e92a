import Rbac.Checked
import Rbac.Json.Basic
import Rbac.Request
import Rbac.Uuid.Reader

namespace Rbac

namespace Payload

/-- An id cannot be read from a text that has no encoding. -/
def brokenText : String :=
  "Input should be a valid string, unable to parse raw data as a unicode string"

/-- A field: its two names. -/
structure Field where
  camel : String
  snake : String

namespace Field

def find? (field : Field) (payload : Json) : Option (String × Json) :=
  ((payload.member? field.camel).map (field.camel, ·)).or
    ((payload.member? field.snake).map (field.snake, ·))

def required {α : Type} (read : String → Json → Checked α) (field : Field) (payload : Json) :
    Checked α :=
  match field.find? payload with
  | some (place, value) => read place value
  | none => .flawed [(field.camel, "Field required")]

def optional {α : Type} (read : String → Json → Checked α) (default : α) (field : Field)
    (payload : Json) : Checked α :=
  match field.find? payload with
  | some (place, value) => read place value
  | none => .ok default

end Field

def text (place : String) : Json → Checked Text
  | .str value => .ok value
  | _ => .flawed [(place, "Input should be a valid string")]

def nullableText (place : String) : Json → Checked (Option Text)
  | .null => .ok none
  | value => (text place value).map some

def texts (place : String) : Json → Checked (List Text)
  | .arr items => .all (items.zipIdx.map fun (item, index) => text s!"{place}.{index}" item)
  | _ => .flawed [(place, "Input should be a valid list")]

def id (place : String) : Json → Checked Uuid
  | .str value =>
    match value.string? with
    | none => .flawed [(place, brokenText)]
    | some text =>
      match Uuid.readPlain? text with
      | some id => .ok id
      | none => .flawed [(place, "Input should be a valid UUID")]
  | _ => .flawed [(place, "UUID input should be a string, bytes or UUID object")]

def scopeType (place : String) (value : Json) : Checked ScopeType :=
  match value.str?.bind ScopeType.read? with
  | some type => .ok type
  | none => .flawed [(place, "Value error, must be 'Organization' or 'Workspace'")]

def nameField : Field := ⟨"name", "name"⟩
def descriptionField : Field := ⟨"description", "description"⟩
def permissionsField : Field := ⟨"permissions", "permissions"⟩
def permissionField : Field := ⟨"permission", "permission"⟩
def scopeIdField : Field := ⟨"scopeId", "scope_id"⟩
def scopeTypeField : Field := ⟨"scopeType", "scope_type"⟩
def userField : Field := ⟨"userId", "user_id"⟩
def assignedByField : Field := ⟨"assignedBy", "assigned_by"⟩

/-- Reads the fields of an object; anything else is flawed as a whole. -/
def object {α : Type} (schema : String) (read : Json → Checked α) (payload : Json) : Checked α :=
  match payload with
  | .obj _ => read payload
  | _ =>
    .flawed [("body", s!"Input should be a valid dictionary or instance of {schema}")]

def scope (payload : Json) : Checked Scope :=
  (fun id type => ⟨type, id⟩) <$> scopeIdField.required id payload
    <*> scopeTypeField.required scopeType payload

def createRole : Json → Checked CreateRole :=
  object "CreateRoleRequest" fun payload =>
    (fun name description scope permissions => ⟨name, scope, description, permissions⟩)
      <$> nameField.required text payload
      <*> descriptionField.optional nullableText none payload
      <*> scope payload
      <*> permissionsField.optional texts [] payload

def updateRole (role : Uuid) : Json → Checked UpdateRole :=
  object "UpdateRoleRequest" fun payload =>
    (fun name description permissions => ⟨role, name, description, permissions⟩)
      <$> nameField.required text payload
      <*> descriptionField.optional nullableText none payload
      <*> permissionsField.optional texts [] payload

def assignRole (role : Uuid) : Json → Checked AssignRole :=
  object "AssignRoleRequest" fun payload =>
    (fun user scope assignedBy => ⟨role, user, scope, assignedBy⟩)
      <$> userField.required id payload
      <*> scope payload
      <*> assignedByField.required id payload

def revokeRole (role : Uuid) : Json → Checked RevokeRole :=
  object "RevokeRoleRequest" fun payload =>
    (fun user scopeId => ⟨role, user, scopeId⟩)
      <$> userField.required id payload <*> scopeIdField.required id payload

def listRoles : Json → Checked Scope :=
  object "ListRolesParams" scope

def checkPermission : Json → Checked CheckPermission :=
  object "CheckPermissionParams" fun payload =>
    (fun user scopeId permission => ⟨user, scopeId, permission⟩)
      <$> userField.required id payload <*> scopeIdField.required id payload
      <*> permissionField.required text payload

def userPermissions (user : Uuid) : Json → Checked UserPermissions :=
  object "UserPermissionsParams" fun payload =>
    (fun scopeId => ⟨user, scopeId⟩) <$> scopeIdField.required id payload

end Payload
end Rbac
