import Rbac.Payload
import Rbac.Proofs.Spellings
import Rbac.Proofs.UseCases

namespace Rbac

theorem Checked.all_ok {α : Type} (values : List α) : all (values.map ok) = ok values := by
  induction values with
  | nil => rfl
  | cons value values ih =>
    rw [List.map_cons, all, ih]
    rfl

namespace Payload

/-- A reader takes a value as a result, wherever the value stands. -/
def Takes {α : Type} (read : String → Json → Checked α) (value : Json) (result : α) : Prop :=
  ∀ place, read place value = .ok result

theorem takes_text (value : Text) : Takes text (.str value) value :=
  fun _ => rfl

theorem takes_nullableText (value : Option Text) : Takes nullableText (.ofText? value) value := by
  cases value with
  | none => exact fun _ => rfl
  | some value => exact fun _ => rfl

theorem takes_texts (values : List Text) : Takes texts (.ofTexts values) values := by
  intro place
  calc texts place (.ofTexts values)
      = .all (values.zipIdx.map (Checked.ok ∘ Prod.fst)) := by
        rw [Json.ofTexts, texts, List.zipIdx_map, List.map_map]
        rfl
    _ = .all (values.map .ok) := by rw [← List.map_map, List.zipIdx_map_fst]
    _ = .ok values := Checked.all_ok values

theorem takes_id (id : Uuid) : Takes Payload.id (.str id.text) id := by
  intro place
  simp only [Payload.id, Text.string?_ofString, id.readPlain?_text]

theorem takes_scopeType (type : ScopeType) : Takes scopeType (.str type.text) type := by
  intro place
  rw [scopeType, Json.str?, Option.bind_some, type.read?_text]

/-- An object holds a value under the first name of a field. -/
def Field.Holds (field : Field) (payload value : Json) : Prop :=
  payload.member? field.camel = some value

section

variable {α : Type} {read : String → Json → Checked α} {field : Field} {payload value : Json}
  {result : α}

theorem Field.Holds.required (h : field.Holds payload value) (hread : Takes read value result) :
    field.required read payload = .ok result := by
  rw [Field.required, Field.find?, h]
  exact hread field.camel

theorem Field.Holds.optional (h : field.Holds payload value) (hread : Takes read value result)
    (default : α) : field.optional read default payload = .ok result := by
  rw [Field.optional, Field.find?, h]
  exact hread field.camel

end

/-- An object holds both fields of a scope. -/
structure HoldsScope (payload : Json) (scope : Scope) : Prop where
  id : scopeIdField.Holds payload (.str scope.id.text)
  type : scopeTypeField.Holds payload (.str scope.type.text)

/-- An object holds what a role is to become. -/
structure HoldsTarget (payload : Json) (name : Text) (description : Option Text)
    (permissions : List Text) : Prop where
  name : nameField.Holds payload (.str name)
  description : descriptionField.Holds payload (.ofText? description)
  permissions : permissionsField.Holds payload (.ofTexts permissions)

section

variable {members : List (Text × Json)}

theorem HoldsScope.read {payload : Json} {expected : Scope} (h : HoldsScope payload expected) :
    scope payload = .ok expected := by
  rw [scope, h.id.required (takes_id expected.id), h.type.required (takes_scopeType expected.type)]
  rfl

theorem createRole_of_holds {name : Text} {expected : Scope} {description : Option Text}
    {permissions : List Text} (h : HoldsTarget (.obj members) name description permissions)
    (hscope : HoldsScope (.obj members) expected) :
    createRole (.obj members) = .ok ⟨name, expected, description, permissions⟩ := by
  rw [createRole, object, h.name.required (takes_text name),
    h.description.optional (takes_nullableText description), hscope.read,
    h.permissions.optional (takes_texts permissions)]
  rfl

theorem updateRole_of_holds (role : Uuid) {name : Text} {description : Option Text}
    {permissions : List Text} (h : HoldsTarget (.obj members) name description permissions) :
    updateRole role (.obj members) = .ok ⟨role, name, description, permissions⟩ := by
  rw [updateRole, object, h.name.required (takes_text name),
    h.description.optional (takes_nullableText description),
    h.permissions.optional (takes_texts permissions)]
  rfl

theorem assignRole_of_holds (role : Uuid) {user assignedBy : Uuid} {expected : Scope}
    (huser : userField.Holds (.obj members) (.str user.text))
    (hscope : HoldsScope (.obj members) expected)
    (hassignedBy : assignedByField.Holds (.obj members) (.str assignedBy.text)) :
    assignRole role (.obj members) = .ok ⟨role, user, expected, assignedBy⟩ := by
  rw [assignRole, object, huser.required (takes_id user), hscope.read,
    hassignedBy.required (takes_id assignedBy)]
  rfl

theorem revokeRole_of_holds (role : Uuid) {user scopeId : Uuid}
    (huser : userField.Holds (.obj members) (.str user.text))
    (hscope : scopeIdField.Holds (.obj members) (.str scopeId.text)) :
    revokeRole role (.obj members) = .ok ⟨role, user, scopeId⟩ := by
  rw [revokeRole, object, huser.required (takes_id user), hscope.required (takes_id scopeId)]
  rfl

theorem checkPermission_of_holds {user scopeId : Uuid} {permission : Text}
    (huser : userField.Holds (.obj members) (.str user.text))
    (hscope : scopeIdField.Holds (.obj members) (.str scopeId.text))
    (hpermission : permissionField.Holds (.obj members) (.str permission)) :
    checkPermission (.obj members) = .ok ⟨user, scopeId, permission⟩ := by
  rw [checkPermission, object, huser.required (takes_id user), hscope.required (takes_id scopeId),
    hpermission.required (takes_text permission)]
  rfl

end

end Payload

open Payload

section

variable (role : Uuid)

theorem RoleView.holds_target (view : RoleView) :
    HoldsTarget view.toJson view.name view.description view.permissions :=
  ⟨rfl, rfl, rfl⟩

theorem RoleView.createRole_toJson (view : RoleView) :
    createRole view.toJson = .ok ⟨view.name, view.scope, view.description, view.permissions⟩ :=
  createRole_of_holds view.holds_target ⟨rfl, rfl⟩

theorem RoleView.updateRole_toJson (view : RoleView) :
    updateRole role view.toJson = .ok ⟨role, view.name, view.description, view.permissions⟩ :=
  updateRole_of_holds role view.holds_target

theorem AssignmentView.assignRole_toJson (view : AssignmentView) :
    assignRole role view.toJson = .ok ⟨role, view.user, view.scope, view.assignedBy⟩ :=
  assignRole_of_holds role rfl ⟨rfl, rfl⟩ rfl

theorem AssignmentView.revokeRole_toJson (view : AssignmentView) :
    revokeRole role view.toJson = .ok ⟨role, view.user, view.scope.id⟩ :=
  revokeRole_of_holds role rfl rfl

theorem CheckView.checkPermission_toJson (view : CheckView) :
    checkPermission view.toJson = .ok ⟨view.user, view.scopeId, view.permission⟩ :=
  checkPermission_of_holds rfl rfl rfl

end

/-- What is shown reads back as the request for it: of a role the commands that create it and that
change it to what it is, of an assignment those that make it and that take it back, and of a check
its query. -/
theorem responses_read_back :
    (∀ role : Role,
      createRole role.view.toJson = .ok
        { name := role.name, scope := role.scope, description := role.description,
          permissions := role.actions } ∧
      updateRole role.id role.view.toJson = .ok
        { id := role.id, name := role.name, description := role.description,
          permissions := role.actions }) ∧
    (∀ (assignment : Assignment) (role : Role), ∃ view,
      (Grant.mk assignment (some role)).view = .ok view ∧
      assignRole assignment.role view.toJson = .ok
        { role := assignment.role, user := assignment.user, scope := assignment.scope,
          assignedBy := assignment.assignedBy } ∧
      revokeRole assignment.role view.toJson = .ok
        { role := assignment.role, user := assignment.user, scopeId := assignment.scope.id }) ∧
    ∀ (query : CheckPermission) (store : Store) (supply : Supply), ∃ view,
      (UseCase.checkPermission query).run store supply =
        (.ok (.ok (.query (.check view))), store, supply) ∧
      checkPermission view.toJson = .ok query := by
  refine ⟨fun role => ⟨?_, ?_⟩, fun assignment role => ⟨_, rfl, ?_, ?_⟩, ?_⟩
  · exact role.view.createRole_toJson
  · exact role.view.updateRole_toJson role.id
  · exact AssignmentView.assignRole_toJson assignment.role _
  · exact AssignmentView.revokeRole_toJson assignment.role _
  · intro query store supply
    exact ⟨_, UseCase.checkPermission_run store supply query, CheckView.checkPermission_toJson _⟩

end Rbac
