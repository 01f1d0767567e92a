import Rbac.Proofs.Database.Asking
import Rbac.Proofs.Database.Overwriting

namespace Rbac.Sql

namespace Statement

def bound (statement : Statement) : List (List Param) :=
  match statement.params with
  | .none => [[]]
  | .one params => [params]
  | .batch rows => rows

/-- A statement whose text has a place for each parameter, and means with the parameters at their
places what the statement means. What a write entails in other tables than the one that its text
names is left to the schema. -/
structure Placed (statement : Statement) : Prop where
  arity : ∀ params ∈ statement.bound, places statement.sql = params.length
  answers : ∀ tables : Tables, ∀ params ∈ statement.bound,
    (Reading.of statement.sql).answer tables params =
      (tables.matching statement).map statement.cells
  changes : ∀ tables after : Tables, tables.change statement = .ok after →
    ∀ source ∈ (Reading.of statement.sql).sources.head?,
      after.rows source.1.name =
        statement.bound.foldl ((Reading.of statement.sql).write source.1)
          (tables.rows source.1.name)

variable {statement : Statement} {table : TableSchema} {verb : Verb} {asks : List Condition}

theorem Placed.query (params : List Param) (hbound : statement.bound = [params])
    (harity : statement.form.reading.arity = params.length)
    (hquiet : ∀ table rows, statement.form.reading.write table rows params = rows)
    (hchange : ∀ tables : Tables, tables.change statement = .ok tables)
    (hanswers : ∀ tables : Tables, statement.form.reading.answer tables params =
      (tables.matching statement).map statement.cells) : statement.Placed := by
  obtain ⟨hread, hplaces⟩ := statement.form.read_text
  constructor
  · simpa [hbound, sql_form, hplaces] using harity
  · simpa [hbound, sql_form, hread] using hanswers
  · intro tables after h source _
    rw [hchange, Except.ok.injEq] at h
    simp [hbound, sql_form, hread, hquiet, h]

theorem Placed.write (hreading : statement.form.reading = .ofTable table verb asks)
    (harity : ∀ params ∈ statement.bound, verb.written.length + asks.length = params.length)
    (hanswers : ∀ tables params, (Reading.ofTable table verb asks).answer tables params = [])
    (hmatching : ∀ tables : Tables, (tables.matching statement).map statement.cells = [])
    (hchanges : ∀ tables after : Tables, tables.change statement = .ok after →
      after.rows table.name = statement.bound.foldl ((Reading.ofTable table verb asks).write table)
        (tables.rows table.name)) : statement.Placed := by
  obtain ⟨hread, hplaces⟩ := statement.form.read_text
  rw [hreading] at hread hplaces
  constructor
  · intro params h
    rw [sql_form, hplaces]
    exact harity params h
  · intro tables params _
    rw [sql_form, hread, hanswers, hmatching]
  · intro tables after h source hsource
    rw [sql_form, hread] at hsource ⊢
    obtain rfl : (table, "") = source := by simpa [Reading.ofTable] using hsource
    exact hchanges tables after h

theorem Placed.writeOnce (params : List Param) (hbound : statement.bound = [params])
    (hreading : statement.form.reading = .ofTable table verb asks)
    (harity : verb.written.length + asks.length = params.length)
    (hanswers : ∀ tables params, (Reading.ofTable table verb asks).answer tables params = [])
    (hmatching : ∀ tables : Tables, (tables.matching statement).map statement.cells = [])
    (hchanges : ∀ tables after : Tables, tables.change statement = .ok after →
      after.rows table.name =
        (Reading.ofTable table verb asks).write table (tables.rows table.name) params) :
    statement.Placed := by
  apply Placed.write hreading ?_ hanswers hmatching
  · simpa only [hbound, List.foldl_cons, List.foldl_nil] using hchanges
  · simpa only [hbound, List.mem_singleton, forall_eq] using harity

end Statement

namespace Form

variable {tables : Tables} {params : List Param} {asks : List Condition}

theorem answer_ofRoles {keeps : RoleRow → Bool}
    (hkeeps : ∀ row : RoleRow,
      Reading.met asks params (Schema.roles.titled "r." row.cells) = keeps row) :
    (ofRoles asks).answer tables params = (tables.roles.filter keeps).map (·.cells) := by
  have hshown : ∀ row : RoleRow, (Schema.roles.titles "r.").map
      (Reading.shown (Schema.roles.titled "r." row.cells)) = row.cells := by
    intro row
    apply Reading.shown_titles rfl
    · simp [Schema.roles_titles_r]
    · simp [Schema.roles_titles_r]
  have hadmits : ∀ row : RoleRow,
      (ofRoles asks).admits params (Schema.roles.titled "r." row.cells) = keeps row := hkeeps
  change ((tables.combined [(Schema.roles, "r.")]).filter _).map _ = _
  rw [Tables.combined_one]
  change (((tables.roles.map (·.cells)).map _).filter _).map _ = _
  simp only [List.map_map, List.filter_map, Function.comp_def, hshown, hadmits]

def titled (row : AssignmentRow × RoleRow) : List (String × Cell) :=
  Schema.assignments.titled "ra." row.1.cells ++ Schema.roles.titled "r." row.2.cells

theorem titled_shown (row : AssignmentRow × RoleRow) :
    (Schema.assignments.titles "ra." ++ Schema.roles.titles "r.").map (Reading.shown (titled row)) =
      row.1.cells ++ row.2.cells := by
  have hzip : titled row = (Schema.assignments.titles "ra." ++ Schema.roles.titles "r.").zip
      (row.1.cells ++ row.2.cells) :=
    (List.zip_append (by rfl)).symm
  rw [hzip]
  apply Reading.shown_titles rfl
  · simp [Schema.assignments_titles_ra, Schema.roles_titles_r]
  · simp [Schema.assignments_titles_ra, Schema.roles_titles_r]

theorem combined_ofAssignments (tables : Tables) :
    tables.combined [(Schema.assignments, "ra."), (Schema.roles, "r.")] =
      tables.assignments.flatMap fun assignment =>
        tables.roles.map fun role => titled (assignment, role) := by
  rw [Tables.combined, Tables.combined_one]
  change (tables.assignments.map (·.cells)).flatMap _ = _
  rw [List.flatMap_map]
  refine congrArg (tables.assignments.flatMap ·) (funext fun assignment => ?_)
  change ((tables.roles.map (·.cells)).map _).map _ = _
  simp only [List.map_map]
  rfl

theorem answer_ofAssignments {keeps : AssignmentRow × RoleRow → Bool}
    (hkeeps : ∀ row, Reading.met asks params (titled row) = keeps row) :
    (ofAssignments asks).answer tables params =
      (tables.joined.filter keeps).map fun row => row.1.cells ++ row.2.cells := by
  have hadmits : ∀ assignment role,
      (ofAssignments asks).admits params (titled (assignment, role)) =
        (keeps (assignment, role) && decide (role.id = assignment.role)) := by
    intro assignment role
    change ((ofAssignments asks).fitted _ && Reading.met asks params _) = _
    rw [hkeeps, Bool.and_comm]
    simp [Reading.fitted, ofAssignments, titled, List.lookup_cons]
  change ((tables.combined [(Schema.assignments, "ra."), (Schema.roles, "r.")]).filter _).map _ = _
  rw [combined_ofAssignments]
  simp only [Tables.joined, List.filter_flatMap, List.map_flatMap, List.filter_map, List.map_map,
    Function.comp_def, hadmits, titled_shown, List.filter_filter]

end Form

namespace Statement

theorem ping_placed : ping.Placed :=
  Placed.query [] rfl rfl (fun _ _ => rfl) (fun _ => rfl) fun _ => rfl

theorem selectRole_placed (id : Uuid) : (selectRole id).Placed := by
  apply Placed.query [.cell (.id id)] rfl rfl (fun _ _ => rfl) (fun _ => rfl)
  intro tables
  exact Form.answer_ofRoles fun row => by simp [Reading.met, List.lookup_cons]

theorem selectRolesIn_placed (scope : Scope) : (selectRolesIn scope).Placed := by
  apply Placed.query [.cell (.id scope.id), .cell (.text scope.type.text)] rfl rfl (fun _ _ => rfl)
    (fun _ => rfl)
  intro tables
  exact Form.answer_ofRoles fun row => by simp [Reading.met, List.lookup_cons]

theorem findRoleName_placed (name : Text) (scope : Scope) (except : Option Uuid) :
    (findRoleName name scope except).Placed := by
  cases except with
  | none =>
    apply Placed.query [.cell (.text name), .cell (.id scope.id), .cell (.text scope.type.text)]
      rfl rfl (fun _ _ => rfl) (fun _ => rfl)
    intro tables
    exact Reading.answer_one RoleRow.cells rfl fun row => by simp [Reading.met, List.lookup_cons]
  | some id =>
    apply Placed.query [.cell (.text name), .cell (.id scope.id), .cell (.text scope.type.text),
      .cell (.id id)] rfl rfl (fun _ _ => rfl) (fun _ => rfl)
    intro tables
    exact Reading.answer_one RoleRow.cells rfl fun row => by simp [Reading.met, List.lookup_cons]

theorem selectPermissions_placed (roles : List Uuid) : (selectPermissions roles).Placed := by
  apply Placed.query [.ids roles] rfl rfl (fun _ _ => rfl) (fun _ => rfl)
  intro tables
  refine Reading.answer_all permissionCells rfl (fun permission => ?_) (fun _ => rfl)
    Schema.permissions_nodup ?_
  · simp [Reading.met, List.lookup_cons]
  · simp [Schema.permissions_titles]

theorem selectAssignment_placed (id : Uuid) : (selectAssignment id).Placed := by
  apply Placed.query [.cell (.id id)] rfl rfl (fun _ _ => rfl) (fun _ => rfl)
  intro tables
  exact Form.answer_ofAssignments fun row => by simp [Reading.met, Form.titled, List.lookup_cons]

theorem selectAssignmentOf_placed (role user scopeId : Uuid) :
    (selectAssignmentOf role user scopeId).Placed := by
  apply Placed.query [.cell (.id role), .cell (.id user), .cell (.id scopeId)] rfl rfl
    (fun _ _ => rfl) (fun _ => rfl)
  intro tables
  exact Form.answer_ofAssignments fun row => by simp [Reading.met, Form.titled, List.lookup_cons]

theorem selectAssignmentsOf_placed (user scopeId : Uuid) :
    (selectAssignmentsOf user scopeId).Placed := by
  apply Placed.query [.cell (.id user), .cell (.id scopeId)] rfl rfl (fun _ _ => rfl) (fun _ => rfl)
  intro tables
  exact Form.answer_ofAssignments fun row => by simp [Reading.met, Form.titled, List.lookup_cons]

theorem findAssignment_placed (role user scopeId : Uuid) :
    (findAssignment role user scopeId).Placed := by
  apply Placed.query [.cell (.id role), .cell (.id user), .cell (.id scopeId)] rfl rfl
    (fun _ _ => rfl) (fun _ => rfl)
  intro tables
  exact Reading.answer_one AssignmentRow.cells rfl
    fun row => by simp [Reading.met, List.lookup_cons]

theorem countAssignments_placed (role : Uuid) : (countAssignments role).Placed := by
  apply Placed.query [.cell (.id role)] rfl rfl (fun _ _ => rfl) (fun _ => rfl)
  intro tables
  exact Reading.answer_count AssignmentRow.cells rfl
    fun row => by simp [Reading.met, List.lookup_cons]

theorem insertRole_placed (row : RoleRow) : (insertRole row).Placed := by
  apply Placed.writeOnce (row.cells.map .cell) rfl rfl rfl (fun _ _ => rfl) (fun _ => rfl)
  intro tables after h
  rw [Reading.write_insert rfl Schema.roles_nodup]
  simp only [Tables.change, Tables.insertRole] at h
  split at h
  · cases h
  · cases h
    exact List.map_append

theorem updateRole_placed (id : Uuid) (name : Text) (description : Option Text)
    (updatedAt : Option Instant) : (updateRole id name description updatedAt).Placed := by
  apply Placed.writeOnce [.cell (.text name), .cell (.ofText? description),
    .cell (.ofMoment? updatedAt), .cell (.id id)] rfl rfl rfl (fun _ _ => rfl) (fun _ => rfl)
  intro tables after h
  have hchosen : ∀ row : RoleRow, Reading.met [⟨"id", .is⟩] [.cell (.id id)]
      (Schema.roles.titled "" row.cells) = decide (row.id = id) := by
    intro row
    simp [Reading.met, List.lookup_cons]
  have hrevise : ∀ row : RoleRow, Schema.roles.overwrite [("name", .cell (.text name)),
      ("description", .cell (.ofText? description)),
      ("updated_at", .cell (.ofMoment? updatedAt))] row.cells =
        (row.revise name description updatedAt).cells := by
    intro row
    rw [TableSchema.overwrite, Schema.roles_titled]
    simp [List.lookup_cons, Param.cell?, RoleRow.revise, RoleRow.cells]
  simp only [Tables.change, Tables.updateRole] at h
  split at h
  · cases h
  · cases h
    refine Eq.trans ?_ (Reading.write_update RoleRow.cells hchosen hrevise).symm
    simp [Tables.rows]

theorem deleteRole_placed (id : Uuid) : (deleteRole id).Placed := by
  apply Placed.writeOnce [.cell (.id id)] rfl rfl rfl (fun _ _ => rfl) (fun _ => rfl)
  intro tables after h
  simp only [Tables.change, Tables.deleteRole] at h
  split at h
  · cases h
  · cases h
    exact (Reading.write_delete RoleRow.cells
      fun row => by simp [Reading.met, List.lookup_cons]).symm

theorem write_insertPermission (rows : List Permission) (permission : Permission) :
    Form.insertPermissions.reading.write Schema.permissions (rows.map permissionCells)
        ((permissionCells permission).map .cell) =
      (addMissing rows permission).map permissionCells := by
  refine (Reading.write_insert rfl Schema.permissions_nodup).trans ?_
  have hthere : (!(["role_id", "action"].isEmpty) && (rows.map permissionCells).any fun other =>
      Schema.permissions.agree ["role_id", "action"] other (permissionCells permission)) = true ↔
        permission.key ∈ rows.map (·.key) := by
    simp [Schema.permissions_agree, Permission.key]
  simp only [hthere, addMissing]
  split
  · rfl
  · rw [List.map_append, List.map_singleton]

theorem insertPermissions_placed (permissions : List Permission) :
    (insertPermissions permissions).Placed := by
  refine Placed.write rfl ?_ (fun _ _ => rfl) (fun _ => rfl) ?_
  · intro params h
    obtain ⟨permission, _, rfl⟩ := List.mem_map.mp h
    rfl
  · intro tables after h
    change after.permissions.map permissionCells = (permissions.map _).foldl _
      (tables.permissions.map permissionCells)
    rw [Tables.insertPermissions_permissions h, List.foldl_map]
    exact (List.foldl_hom (List.map permissionCells) write_insertPermission).symm

theorem trimPermissions_placed (role : Uuid) (actions : List Text) :
    (trimPermissions role actions).Placed := by
  apply Placed.writeOnce [.cell (.id role), .texts actions] rfl rfl rfl (fun _ _ => rfl)
    (fun _ => rfl)
  intro tables after h
  cases h
  exact (Reading.write_delete permissionCells fun permission => by
    simp [Reading.met, List.lookup_cons]).symm

theorem insertAssignment_placed (row : AssignmentRow) : (insertAssignment row).Placed := by
  apply Placed.writeOnce (row.cells.map .cell) rfl rfl rfl (fun _ _ => rfl) (fun _ => rfl)
  intro tables after h
  rw [Reading.write_insert rfl Schema.assignments_nodup]
  simp only [Tables.change, Tables.insertAssignment] at h
  split at h
  · cases h
  · cases h
    exact List.map_append

theorem deleteAssignment_placed (id : Uuid) : (deleteAssignment id).Placed := by
  apply Placed.writeOnce [.cell (.id id)] rfl rfl rfl (fun _ _ => rfl) (fun _ => rfl)
  intro tables after h
  cases h
  exact (Reading.write_delete AssignmentRow.cells fun row => by
    simp [Reading.met, List.lookup_cons]).symm

theorem placed (statement : Statement) : statement.Placed := by
  cases statement with
  | ping => exact ping_placed
  | selectRole id => exact selectRole_placed id
  | selectRolesIn scope => exact selectRolesIn_placed scope
  | findRoleName name scope except => exact findRoleName_placed name scope except
  | insertRole row => exact insertRole_placed row
  | updateRole id name description updatedAt =>
    exact updateRole_placed id name description updatedAt
  | deleteRole id => exact deleteRole_placed id
  | selectPermissions roles => exact selectPermissions_placed roles
  | insertPermissions permissions => exact insertPermissions_placed permissions
  | trimPermissions role actions => exact trimPermissions_placed role actions
  | selectAssignment id => exact selectAssignment_placed id
  | selectAssignmentOf role user scopeId => exact selectAssignmentOf_placed role user scopeId
  | selectAssignmentsOf user scopeId => exact selectAssignmentsOf_placed user scopeId
  | findAssignment role user scopeId => exact findAssignment_placed role user scopeId
  | countAssignments role => exact countAssignments_placed role
  | insertAssignment row => exact insertAssignment_placed row
  | deleteAssignment id => exact deleteAssignment_placed id

end Statement

end Rbac.Sql
