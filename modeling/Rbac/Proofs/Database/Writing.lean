import Rbac.Proofs.Database.Mirrors

namespace Rbac.Sql

/-- A row of a role that fits its table: the name and the description are short enough. -/
structure RoleFits (name : Text) (description : Option Text) : Prop where
  name : name.length ≤ Validation.nameLimit
  description : ∀ text ∈ description, text.length ≤ Validation.descriptionLimit

theorem RoleFits.row {role : Role} (h : RoleFits role.name role.description) :
    Schema.roles.fits (RoleRow.ofRole role).cells = true := by
  apply Schema.roles_fits h.name h.description
  change Text.ofString role.scope.type.text ∈ Schema.scopeTypes.map Text.ofString
  cases role.scope.type <;> decide

namespace Tables

variable {tables : Tables}

theorem refusal_none {table : TableSchema} {others : List (List Cell)} {row : List Cell}
    (hfits : table.fits row = true) (hfree : ∀ other ∈ others, table.clash other row = false)
    (hreferences : ∀ reference ∈ table.references row,
      ∃ other ∈ tables.rows reference.1, other.head? = reference.2) :
    tables.refusal? table others row = none := by
  have hnone : (others.any fun other => table.clash other row) = false := by
    simpa using hfree
  unfold refusal?
  rw [if_neg (by simp [hfits]), if_neg (by simp [hnone]), if_pos]
  rw [List.all_eq_true]
  intro reference hin
  simpa using hreferences reference hin

theorem insertRole_apart {role : Role} (hfits : RoleFits role.name role.description)
    (hapart : ∀ row ∈ tables.roles,
      Schema.roles.clash row.cells (RoleRow.ofRole role).cells = false) :
    tables.change (.insertRole (.ofRole role)) =
      .ok { tables with roles := tables.roles ++ [.ofRole role] } := by
  have htaken : tables.refusal? Schema.roles (tables.rows Schema.roles.name)
      (RoleRow.ofRole role).cells = none := by
    apply refusal_none hfits.row
    · intro cells hcells
      obtain ⟨row, hrow, rfl⟩ := List.mem_map.mp hcells
      exact hapart row hrow
    · intro reference hin
      cases hin
  simp only [change, insertRole, htaken]

end Tables

namespace Mirrors

variable {tables : Tables} {store : Store}

theorem of_mem_roles (h : Mirrors tables store) {row : RoleRow} (hrow : row ∈ tables.roles) :
    ∃ role ∈ store.roles.rows, RoleRow.ofRole role = row :=
  List.mem_map.mp (h.roles.mem_iff.mp hrow)

theorem of_mem_assignments (h : Mirrors tables store) {row : AssignmentRow}
    (hrow : row ∈ tables.assignments) :
    ∃ assignment ∈ store.assignments.rows, AssignmentRow.ofAssignment assignment = row :=
  List.mem_map.mp (h.assignments.mem_iff.mp hrow)

theorem of_mem_permissions (h : Mirrors tables store) {permission : Permission}
    (hpermission : permission ∈ tables.permissions) :
    ∃ role ∈ store.roles.rows, permission ∈ role.permissions :=
  List.mem_flatMap.mp (h.permissions.mem_iff.mp hpermission)

theorem roles_apart {other role : Role} (hid : other.id ≠ role.id)
    (hname : other.name = role.name → other.scope ≠ role.scope) :
    Schema.roles.clash (RoleRow.ofRole other).cells (RoleRow.ofRole role).cells = false := by
  rw [Bool.eq_false_iff, ne_eq, Schema.roles_clash]
  rintro (hsame | ⟨hsame, hcolumns⟩)
  · exact hid hsame
  · exact hname hsame (Scope.columns_iff.mp hcolumns)

theorem new_role_apart (h : Mirrors tables store) {role : Role}
    (hnew : ∀ other ∈ store.roles.rows, other.id ≠ role.id)
    (hfree : store.nameTaken role.name role.scope none = false) :
    ∀ row ∈ tables.roles, Schema.roles.clash row.cells (RoleRow.ofRole role).cells = false := by
  intro row hrow
  obtain ⟨other, ho, rfl⟩ := h.of_mem_roles hrow
  apply roles_apart (hnew other ho)
  intro hname hscope
  cases Store.nameFree_iff.mp hfree other ho hname hscope

theorem updateRole_ok (h : Mirrors tables store) {old role : Role}
    (hold : old ∈ store.roles.rows) (hsame : RoleRow.ofRole role =
      (RoleRow.ofRole old).revise role.name role.description role.updatedAt)
    (hfits : RoleFits role.name role.description)
    (hfree : store.nameTaken role.name role.scope (some role.id) = false) :
    tables.change (.updateRole role.id role.name role.description role.updatedAt) =
      .ok { tables with roles := tables.roles.map fun row =>
              if row.id = role.id then row.revise role.name role.description role.updatedAt
              else row } := by
  have hid : role.id = old.id := congrArg RoleRow.id hsame
  have hfound : store.role? role.id = some old := Table.find_iff.mpr ⟨hold, hid.symm⟩
  have hrow : tables.roles.filter (fun row => row.id = role.id) = [.ofRole old] := by
    rw [h.roles_with_id, hfound]
    rfl
  have htaken : tables.refusal? Schema.roles
      ((tables.roles.filter fun row => row.id ≠ role.id).map (·.cells))
      (RoleRow.ofRole role).cells = none := by
    apply Tables.refusal_none hfits.row
    · intro cells hcells
      obtain ⟨row, hrow, rfl⟩ := List.mem_map.mp hcells
      obtain ⟨hstored, hne⟩ := List.mem_filter.mp hrow
      obtain ⟨other, ho, rfl⟩ := h.of_mem_roles hstored
      have hother : other.id ≠ role.id := of_decide_eq_true hne
      apply roles_apart hother
      intro hname hscope
      exact hother (Option.some.inj (Store.nameFree_iff.mp hfree other ho hname hscope))
    · intro reference hin
      cases hin
  have hchanged : ([.ofRole old] : List RoleRow).map
      (RoleRow.revise role.name role.description role.updatedAt) = [.ofRole role] := by
    rw [hsame]
    rfl
  simp only [Tables.change, Tables.updateRole, hrow, hchanged, List.findSome?_singleton, htaken]

theorem permissions_restrict (id : Uuid) (permission : Permission) :
    Schema.permissions.refersTo .restrict Schema.roles.name id (permissionCells permission) =
      false := by
  simp [TableSchema.refersTo, Schema.permissions, Schema.roles]

theorem permissions_cascade (id : Uuid) (permission : Permission) :
    Schema.permissions.refersTo .cascade Schema.roles.name id (permissionCells permission) =
      decide (permission.role = id) := by
  rw [Bool.eq_iff_iff]
  simp [TableSchema.refersTo, TableSchema.cell?, Schema.permissions, Schema.roles, permissionCells]

theorem assignments_restrict (id : Uuid) (row : AssignmentRow) :
    Schema.assignments.refersTo .restrict Schema.roles.name id row.cells =
      decide (row.role = id) := by
  rw [Bool.eq_iff_iff]
  simp [TableSchema.refersTo, TableSchema.cell?, Schema.assignments, Schema.roles,
    AssignmentRow.cells]

theorem assignments_cascade (id : Uuid) (row : AssignmentRow) :
    Schema.assignments.refersTo .cascade Schema.roles.name id row.cells = false := by
  simp [TableSchema.refersTo, Schema.assignments, Schema.roles]

theorem deleteRole_ok (h : Mirrors tables store) {id : Uuid} (hunheld : store.countByRole id = 0) :
    tables.change (.deleteRole id) = .ok {
      roles := tables.roles.filter fun row => row.id ≠ id
      permissions := tables.permissions.filter fun permission => permission.role ≠ id
      assignments := tables.assignments } := by
  have hheld : (tables.assignments.any fun row =>
      Schema.assignments.refersTo .restrict Schema.roles.name id row.cells) = false := by
    simp only [assignments_restrict]
    rw [List.any_eq_false]
    intro row hrow
    obtain ⟨assignment, ha, rfl⟩ := h.of_mem_assignments hrow
    exact List.countP_eq_zero.mp hunheld assignment ha
  simp [Tables.change, Tables.deleteRole, permissions_restrict, hheld, permissions_cascade,
    assignments_cascade]

end Mirrors

namespace Tables

variable {tables : Tables}

theorem insertPermission_present {permission : Permission}
    (hfits : permission.action.length ≤ Validation.permissionLimit)
    (hpresent : permission ∈ tables.permissions) :
    tables.insertPermission permission = .ok tables := by
  have hany : ((tables.rows Schema.permissions.name).any fun other =>
      Schema.permissions.agree ["role_id", "action"] other (permissionCells permission)) = true :=
    List.any_eq_true.mpr
      ⟨_, List.mem_map_of_mem hpresent, Schema.permissions_agree.mpr ⟨rfl, rfl⟩⟩
  rw [insertPermission, if_pos ⟨Schema.permissions_fits hfits, hany⟩]

theorem insertPermission_new {permission : Permission}
    (hfits : permission.action.length ≤ Validation.permissionLimit)
    (hrole : ∃ row ∈ tables.roles, row.id = permission.role)
    (hnew : ∀ other ∈ tables.permissions, other.id ≠ permission.id ∧
      (other.role = permission.role → other.action ≠ permission.action)) :
    tables.insertPermission permission =
      .ok { tables with permissions := tables.permissions ++ [permission] } := by
  have hnone : ¬ ((tables.rows Schema.permissions.name).any fun other =>
      Schema.permissions.agree ["role_id", "action"] other (permissionCells permission)) =
        true := by
    intro hany
    obtain ⟨cells, hcells, hagree⟩ := List.any_eq_true.mp hany
    obtain ⟨other, ho, rfl⟩ := List.mem_map.mp hcells
    obtain ⟨hsame, haction⟩ := Schema.permissions_agree.mp hagree
    exact (hnew other ho).2 hsame haction
  have htaken : tables.refusal? Schema.permissions (tables.rows Schema.permissions.name)
      (permissionCells permission) = none := by
    apply refusal_none (Schema.permissions_fits hfits)
    · intro cells hcells
      obtain ⟨other, ho, rfl⟩ := List.mem_map.mp hcells
      rw [Bool.eq_false_iff, ne_eq, Schema.permissions_clash]
      rintro (hid | ⟨hsame, haction⟩)
      · exact (hnew other ho).1 hid
      · exact (hnew other ho).2 hsame haction
    · intro reference hin
      obtain rfl : reference = (Schema.roles.name, some (.id permission.role)) :=
        List.mem_singleton.mp hin
      obtain ⟨row, hrow, hid⟩ := hrole
      refine ⟨row.cells, List.mem_map_of_mem hrow, ?_⟩
      rw [← hid]
      rfl
  rw [insertPermission, if_neg fun hpresent => hnone hpresent.2, htaken]

theorem insertPermissions_present {permissions : List Permission}
    (hfits : ∀ permission ∈ permissions, permission.action.length ≤ Validation.permissionLimit)
    (hpresent : ∀ permission ∈ permissions, permission ∈ tables.permissions) :
    permissions.foldlM insertPermission tables = .ok tables := by
  induction permissions with
  | nil => rfl
  | cons permission rest ih =>
    rw [List.foldlM_cons, insertPermission_present (hfits permission List.mem_cons_self)
      (hpresent permission List.mem_cons_self)]
    exact ih (fun other ho => hfits other (List.mem_cons_of_mem _ ho))
      fun other ho => hpresent other (List.mem_cons_of_mem _ ho)

/-- Permissions of stored roles with new ids and new actions are all added. -/
theorem insertPermissions_new {permissions : List Permission}
    (hfits : ∀ permission ∈ permissions, permission.action.length ≤ Validation.permissionLimit)
    (hroles : ∀ permission ∈ permissions, ∃ row ∈ tables.roles, row.id = permission.role)
    (hnew : ∀ permission ∈ permissions, ∀ other ∈ tables.permissions, other.id ≠ permission.id ∧
      (other.role = permission.role → other.action ≠ permission.action))
    (hdistinct : permissions.Pairwise fun a b =>
      a.id ≠ b.id ∧ (a.role = b.role → a.action ≠ b.action)) :
    permissions.foldlM insertPermission tables =
      .ok { tables with permissions := tables.permissions ++ permissions } := by
  induction permissions generalizing tables with
  | nil => simp [pure, Except.pure]
  | cons permission rest ih =>
    obtain ⟨hfirst, hrest⟩ := List.pairwise_cons.mp hdistinct
    rw [List.foldlM_cons, insertPermission_new (hfits permission List.mem_cons_self)
      (hroles permission List.mem_cons_self) (hnew permission List.mem_cons_self)]
    have hadded := @ih { tables with permissions := tables.permissions ++ [permission] }
      (fun other ho => hfits other (List.mem_cons_of_mem _ ho))
      (fun other ho => hroles other (List.mem_cons_of_mem _ ho)) ?_ hrest
    · rw [List.append_assoc] at hadded
      exact hadded
    · intro other ho stored hstored
      rcases List.mem_append.mp hstored with hold | hlast
      · exact hnew other (List.mem_cons_of_mem _ ho) stored hold
      · rw [List.mem_singleton.mp hlast]
        exact hfirst other ho

end Tables

namespace Mirrors

variable {tables : Tables} {store : Store}

theorem insertAssignment_ok (h : Mirrors tables store) {assignment : Assignment}
    (hrole : ∃ role ∈ store.roles.rows, role.id = assignment.role)
    (hnew : ∀ other ∈ store.assignments.rows, other.id ≠ assignment.id)
    (hfree : store.isAssigned assignment.role assignment.user assignment.scope.id = false) :
    tables.change (.insertAssignment (.ofAssignment assignment)) =
      .ok { tables with assignments := tables.assignments ++ [.ofAssignment assignment] } := by
  have hfits : Schema.assignments.fits (AssignmentRow.ofAssignment assignment).cells = true := by
    apply Schema.assignments_fits
    change (Text.ofString assignment.scope.type.text).length ≤ 20
    cases assignment.scope.type <;> decide
  have htaken : tables.refusal? Schema.assignments (tables.rows Schema.assignments.name)
      (AssignmentRow.ofAssignment assignment).cells = none := by
    apply Tables.refusal_none hfits
    · intro cells hcells
      obtain ⟨row, hrow, rfl⟩ := List.mem_map.mp hcells
      obtain ⟨other, ho, rfl⟩ := h.of_mem_assignments hrow
      rw [Bool.eq_false_iff, ne_eq, Schema.assignments_clash]
      rintro (hid | ⟨hrole, huser, hscope⟩)
      · exact hnew other ho hid
      · have hkey : other.key = (assignment.role, assignment.user, assignment.scope.id) :=
          Prod.ext hrole (Prod.ext huser hscope)
        rw [Store.isAssigned_iff.mpr ⟨other, ho, hkey⟩] at hfree
        cases hfree
    · intro reference hin
      obtain rfl : reference = (Schema.roles.name, some (.id assignment.role)) :=
        List.mem_singleton.mp hin
      obtain ⟨role, hstored, hid⟩ := hrole
      have hrow : RoleRow.ofRole role ∈ tables.roles :=
        h.roles.mem_iff.mpr (List.mem_map_of_mem hstored)
      refine ⟨_, List.mem_map_of_mem hrow, ?_⟩
      rw [← hid]
      rfl
  simp only [Tables.change, Tables.insertAssignment, htaken]

end Mirrors
end Rbac.Sql
