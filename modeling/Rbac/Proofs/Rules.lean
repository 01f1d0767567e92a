import Rbac.Validation

namespace Rbac

/-- An action as the rules want it: neither blank nor too long, and of the pattern. -/
structure Pattern.Admits (pattern : Pattern) (action : Text) : Prop where
  visible : Text.isBlank action = false
  short : action.length ≤ Validation.permissionLimit
  accepted : pattern.accepts action = true

/-- A request with all its fields as the rules want them. Deleting, getting and listing roles have
no rules. -/
def Request.KeepsRules (pattern : Pattern) : Request → Prop
  | .createRole command =>
    (Text.isBlank command.name = false ∧ command.name.length ≤ Validation.nameLimit) ∧
      (∀ text ∈ command.description, text.length ≤ Validation.descriptionLimit) ∧
      command.scope.id.isNil = false ∧ ∀ action ∈ command.permissions, pattern.Admits action
  | .updateRole command =>
    command.id.isNil = false ∧
      (Text.isBlank command.name = false ∧ command.name.length ≤ Validation.nameLimit) ∧
      (∀ text ∈ command.description, text.length ≤ Validation.descriptionLimit) ∧
      ∀ action ∈ command.permissions, pattern.Admits action
  | .assignRole command =>
    command.role.isNil = false ∧ command.user.isNil = false ∧ command.scope.id.isNil = false ∧
      command.assignedBy.isNil = false
  | .revokeRole command =>
    command.role.isNil = false ∧ command.user.isNil = false ∧ command.scopeId.isNil = false
  | .checkPermission query =>
    query.user.isNil = false ∧ query.scopeId.isNil = false ∧
      Text.isBlank query.permission = false ∧ query.permission.length ≤ Validation.permissionLimit
  | .userPermissions query => query.user.isNil = false ∧ query.scopeId.isNil = false
  | .deleteRole _ | .getRole _ | .listRoles _ => True

namespace Validation

variable {pattern : Pattern}

theorem id_nil_iff {field : String} {value : Uuid} : id field value = [] ↔ value.isNil = false := by
  simp [id]

theorem text_nil_iff {field : String} {limit : Nat} {value : Text} :
    text field limit value = [] ↔ Text.isBlank value = false ∧ value.length ≤ limit := by
  cases hb : Text.isBlank value with
  | true => simp [text, hb]
  | false => simp [text, hb]

theorem description_nil_iff {value : Option Text} :
    description value = [] ↔ ∀ text ∈ value, text.length ≤ descriptionLimit := by
  cases value with
  | none => simp [description]
  | some text => simp [description]

theorem message_none_iff {action : Text} :
    actionMessage? pattern action = none ↔ pattern.Admits action := by
  constructor
  · intro h
    simp only [actionMessage?] at h
    split at h
    · cases h
    · rename_i hvisible
      split at h
      · cases h
      · rename_i hshort
        split at h
        · rename_i haccepted
          exact ⟨by simpa using hvisible, Nat.le_of_not_lt hshort, haccepted⟩
        · cases h
  · rintro ⟨hvisible, hshort, haccepted⟩
    simp [actionMessage?, hvisible, Nat.not_lt.mpr hshort, haccepted]

theorem actions_nil_iff {index : Nat} {actions : List Text} :
    actionsFrom pattern index actions = [] ↔ ∀ action ∈ actions, pattern.Admits action := by
  induction actions generalizing index with
  | nil => simp [actionsFrom]
  | cons head rest ih => simp [actionsFrom, ih, message_none_iff]

/-- The validators list nothing exactly where all rules are kept. -/
theorem breaches_nil_iff {request : Request} :
    breaches pattern request = [] ↔ request.KeepsRules pattern := by
  cases request with
  | createRole command =>
    simp only [breaches, createRole, List.append_eq_nil_iff, text_nil_iff, description_nil_iff,
      id_nil_iff, actions, actions_nil_iff, Request.KeepsRules, and_assoc]
  | updateRole command =>
    simp only [breaches, updateRole, List.append_eq_nil_iff, text_nil_iff, description_nil_iff,
      id_nil_iff, actions, actions_nil_iff, Request.KeepsRules, and_assoc]
  | assignRole command =>
    simp only [breaches, assignRole, List.append_eq_nil_iff, id_nil_iff, Request.KeepsRules,
      and_assoc]
  | revokeRole command =>
    simp only [breaches, revokeRole, List.append_eq_nil_iff, id_nil_iff, Request.KeepsRules,
      and_assoc]
  | checkPermission query =>
    simp only [breaches, checkPermission, List.append_eq_nil_iff, id_nil_iff, text_nil_iff,
      Request.KeepsRules, and_assoc]
  | userPermissions query =>
    simp only [breaches, userPermissions, List.append_eq_nil_iff, id_nil_iff, Request.KeepsRules]
  | deleteRole id => simp [breaches, Request.KeepsRules]
  | getRole id => simp [breaches, Request.KeepsRules]
  | listRoles scope => simp [breaches, Request.KeepsRules]

theorem updateRole_blank {command : UpdateRole} (h : breaches pattern (.updateRole command) = []) :
    ∀ action ∈ command.permissions, Text.isBlank action = false :=
  fun action ha => ((breaches_nil_iff.mp h).2.2.2 action ha).visible

end Validation

instance (pattern : Pattern) (request : Request) : Decidable (request.KeepsRules pattern) :=
  decidable_of_iff _ Validation.breaches_nil_iff

end Rbac
