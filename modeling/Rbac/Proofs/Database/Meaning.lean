import Rbac.Proofs.Database.Rows
import Rbac.Sql.Connection

namespace Rbac.Sql

/-- The rows of the three tables. -/
structure Tables where
  roles : List RoleRow
  permissions : List Permission
  assignments : List AssignmentRow

/-- What the meaning of a query leaves open: in which order rows are come upon, and how names are
compared. -/
structure Engine where
  arrange : {α : Type} → Tables → Statement → List α → List α
  arrange_perm : ∀ {α : Type} (tables : Tables) (statement : Statement) (rows : List α),
    (arrange tables statement rows).Perm rows
  collate : Text → Text → Bool

namespace Tables

def empty : Tables := ⟨[], [], []⟩

def rows (tables : Tables) (name : String) : List (List Cell) :=
  if name = Schema.roles.name then tables.roles.map (·.cells)
  else if name = Schema.permissions.name then tables.permissions.map permissionCells
  else if name = Schema.assignments.name then tables.assignments.map (·.cells)
  else []

def joined (tables : Tables) : List (AssignmentRow × RoleRow) :=
  tables.assignments.flatMap fun row =>
    (tables.roles.filter fun role => role.id = row.role).map fun role => (row, role)

def matching (tables : Tables) : (statement : Statement) → List statement.Row
  | .ping => [Cell.int 1]
  | .selectRole id => tables.roles.filter fun row => row.id = id
  | .selectRolesIn scope => tables.roles.filter fun row =>
      row.scopeId = scope.id ∧ row.scopeType = .ofString scope.type.text
  | .findRoleName name scope except =>
    (tables.roles.filter fun row => row.name = name ∧ row.scopeId = scope.id ∧
      row.scopeType = .ofString scope.type.text ∧ some row.id ≠ except).map fun _ => ()
  | .selectPermissions roles => tables.permissions.filter fun permission => permission.role ∈ roles
  | .selectAssignment id => tables.joined.filter fun row => row.1.id = id
  | .selectAssignmentOf role user scopeId => tables.joined.filter fun row =>
      row.1.role = role ∧ row.1.user = user ∧ row.1.scopeId = scopeId
  | .selectAssignmentsOf user scopeId => tables.joined.filter fun row =>
      row.1.user = user ∧ row.1.scopeId = scopeId
  | .findAssignment role user scopeId =>
    (tables.assignments.filter fun row =>
      row.role = role ∧ row.user = user ∧ row.scopeId = scopeId).map fun _ => ()
  | .countAssignments role => [Cell.int (tables.assignments.countP fun row => row.role = role)]
  | .insertRole _ | .updateRole .. | .deleteRole _ | .insertPermissions _ | .trimPermissions ..
  | .insertAssignment _ | .deleteAssignment _ => ([] : List Unit)

end Tables

def permissionLe (a b : Permission) : Bool :=
  a.createdAt.micros < b.createdAt.micros
    || (a.createdAt.micros = b.createdAt.micros && a.id.value ≤ b.id.value)

/-- Sorts the rows of a query as it asks, and leaves out those beyond its limit. -/
def Engine.present (engine : Engine) : (statement : Statement) → List statement.Row →
    List statement.Row
  | .selectRolesIn _, rows => rows.mergeSort fun (a b : RoleRow) => engine.collate a.name b.name
  | .selectPermissions _, rows => rows.mergeSort permissionLe
  | .selectAssignmentsOf .., rows =>
    rows.mergeSort fun (a b : AssignmentRow × RoleRow) => a.1.assignedAt.le b.1.assignedAt
  | .findRoleName .., rows | .findAssignment .., rows => rows.take 1
  | _, rows => rows

def Engine.select (engine : Engine) (tables : Tables) (statement : Statement) :
    List statement.Row :=
  engine.present statement (engine.arrange tables statement (tables.matching statement))

def Statement.cells : (statement : Statement) → statement.Row → List Cell
  | .ping, cell | .countAssignments _, cell => [cell]
  | .selectRole _, row | .selectRolesIn _, row => RoleRow.cells row
  | .selectPermissions _, permission => permissionCells permission
  | .selectAssignment _, (assignment, role) | .selectAssignmentOf .., (assignment, role)
  | .selectAssignmentsOf .., (assignment, role) => assignment.cells ++ role.cells
  | .findRoleName .., _ | .findAssignment .., _ | .insertRole _, _ | .updateRole .., _
  | .deleteRole _, _ | .insertPermissions _, _ | .trimPermissions .., _ | .insertAssignment _, _
  | .deleteAssignment _, _ => [.int 1]

/-- The rows of an answer that are fetched: of some queries only the first. -/
def Statement.fetched : (statement : Statement) → List statement.Row → List statement.Row
  | .ping, rows | .selectRole _, rows | .countAssignments _, rows => rows.take 1
  | _, rows => rows

theorem Statement.fetched_short {statement : Statement} {rows : List statement.Row}
    (h : rows.length ≤ 1) : statement.fetched rows = rows := by
  cases statement with
  | ping => exact List.take_of_length_le h
  | selectRole id => exact List.take_of_length_le h
  | countAssignments role => exact List.take_of_length_le h
  | _ => rfl

theorem Statement.readRow?_cells (statement : Statement) (row : statement.Row) :
    statement.readRow? (statement.cells row) = some row := by
  cases statement with
  | selectRole id => exact RoleRow.ofCells?_cells row
  | selectRolesIn scope => exact RoleRow.ofCells?_cells row
  | selectAssignment id => exact joinedOfCells?_append row.1 row.2
  | selectAssignmentOf role user scopeId => exact joinedOfCells?_append row.1 row.2
  | selectAssignmentsOf user scopeId => exact joinedOfCells?_append row.1 row.2
  | _ => rfl

theorem Statement.readable_cells (statement : Statement) (rows : List statement.Row) :
    statement.readable (rows.map statement.cells) =
      (statement.fetched rows).map statement.cells := by
  have hfirst : ∀ (rows : List statement.Row), (∀ row, statement.cells row ≠ []) →
      ((rows.map statement.cells).take 1).filter (fun cells => !cells.isEmpty) =
        (rows.take 1).map statement.cells := by
    intro rows hcells
    cases rows with
    | nil => rfl
    | cons row rest => simp [hcells row]
  cases statement with
  | ping => exact hfirst rows fun _ => List.cons_ne_nil _ _
  | selectRole id => exact hfirst rows fun _ => List.cons_ne_nil _ _
  | countAssignments role => exact hfirst rows fun _ => List.cons_ne_nil _ _
  | _ => rfl

theorem Scripted.reply_cells (statement : Statement) (rows : List statement.Row) :
    Scripted.reply (.ok (rows.map statement.cells)) statement = .ok (statement.fetched rows) := by
  have hread : ((statement.fetched rows).map statement.cells).mapM statement.readRow? =
      some (statement.fetched rows) := by
    generalize statement.fetched rows = fetched
    induction fetched with
    | nil => rfl
    | cons row rest ih =>
      rw [List.map_cons, List.mapM_cons, statement.readRow?_cells, ih]
      rfl
  rw [reply, statement.readable_cells, hread]
  rfl

def RoleRow.revise (name : Text) (description : Option Text) (updatedAt : Option Instant)
    (row : RoleRow) : RoleRow :=
  { row with name, description, updatedAt }

namespace Tables

/-- Why a table does not take a row beside the others that it has. -/
def refusal? (tables : Tables) (table : TableSchema) (others : List (List Cell))
    (row : List Cell) : Option Raised :=
  if !table.fits row then some ⟨.other "DataError", "row does not fit the table"⟩
  else if others.any fun other => table.clash other row then
    some ⟨.uniqueViolation, "duplicate key value violates unique constraint"⟩
  else if (table.references row).all fun (target, id) =>
      (tables.rows target).any fun other => other.head? == id then none
  else some ⟨.foreignKeyViolation, "key is not present in table"⟩

def insertRole (tables : Tables) (row : RoleRow) : Except Raised Tables :=
  match tables.refusal? Schema.roles (tables.rows Schema.roles.name) row.cells with
  | some raised => .error raised
  | none => .ok { tables with roles := tables.roles ++ [row] }

/-- A changed row has to be taken beside those that stay as they are. -/
def updateRole (tables : Tables) (id : Uuid) (change : RoleRow → RoleRow) :
    Except Raised Tables :=
  let others := tables.roles.filter fun row => row.id ≠ id
  let changed := (tables.roles.filter fun row => row.id = id).map change
  match changed.findSome? fun row =>
      tables.refusal? Schema.roles (others.map (·.cells)) row.cells with
  | some raised => .error raised
  | none =>
    .ok { tables with roles := tables.roles.map fun row => if row.id = id then change row else row }

/-- Rows that refer to a deleted role keep it from being deleted, or go with it. -/
def deleteRole (tables : Tables) (id : Uuid) : Except Raised Tables :=
  let refers (table : TableSchema) (onDelete : OnDelete) (row : List Cell) : Bool :=
    table.refersTo onDelete Schema.roles.name id row
  if (tables.permissions.any fun row => refers Schema.permissions .restrict (permissionCells row))
      || tables.assignments.any fun row => refers Schema.assignments .restrict row.cells then
    .error ⟨.foreignKeyViolation, "key is still referenced from table"⟩
  else
    .ok {
      roles := tables.roles.filter fun row => row.id ≠ id
      permissions := tables.permissions.filter fun row =>
        !refers Schema.permissions .cascade (permissionCells row)
      assignments := tables.assignments.filter fun row =>
        !refers Schema.assignments .cascade row.cells }

/-- A permission whose role has the action already is passed over. -/
def insertPermission (tables : Tables) (permission : Permission) : Except Raised Tables :=
  let row := permissionCells permission
  if Schema.permissions.fits row ∧ (tables.rows Schema.permissions.name).any fun other =>
      Schema.permissions.agree ["role_id", "action"] other row then .ok tables
  else
    match tables.refusal? Schema.permissions (tables.rows Schema.permissions.name) row with
    | some raised => .error raised
    | none => .ok { tables with permissions := tables.permissions ++ [permission] }

def insertAssignment (tables : Tables) (row : AssignmentRow) : Except Raised Tables :=
  match tables.refusal? Schema.assignments (tables.rows Schema.assignments.name) row.cells with
  | some raised => .error raised
  | none => .ok { tables with assignments := tables.assignments ++ [row] }

/-- What a statement makes of the tables, or why it is refused. -/
def change (tables : Tables) : Statement → Except Raised Tables
  | .insertRole row => tables.insertRole row
  | .updateRole id name description updatedAt =>
    tables.updateRole id (RoleRow.revise name description updatedAt)
  | .deleteRole id => tables.deleteRole id
  | .insertPermissions permissions => permissions.foldlM insertPermission tables
  | .trimPermissions role actions =>
    .ok { tables with permissions := tables.permissions.filter fun permission =>
            ¬(permission.role = role ∧ permission.action ∉ actions) }
  | .insertAssignment row => tables.insertAssignment row
  | .deleteAssignment id =>
    .ok { tables with assignments := tables.assignments.filter fun row => row.id ≠ id }
  | .ping | .selectRole _ | .selectRolesIn _ | .findRoleName .. | .selectPermissions _
  | .selectAssignment _ | .selectAssignmentOf .. | .selectAssignmentsOf .. | .findAssignment ..
  | .countAssignments _ => .ok tables

def answer (engine : Engine) (tables : Tables) (statement : Statement) : Scripted × Tables :=
  match tables.change statement with
  | .error raised => (.error raised, tables)
  | .ok after => (.ok ((engine.select tables statement).map statement.cells), after)

end Tables

/-- The meaning of a session over tables. -/
def Session.perform {α : Type} (engine : Engine) :
    Session α → Tables → Supply → Except Failure α × Tables × Supply
  | .done value, tables, supply => (.ok value, tables, supply)
  | .fail failure, tables, supply => (.error failure, tables, supply)
  | .draw next, tables, supply => (next supply.next).perform engine tables supply.advance
  | .send statement next, tables, supply =>
    let (scripted, tables) := tables.answer engine statement
    (next (scripted.reply statement)).perform engine tables supply

namespace Session

variable {α β : Type} {engine : Engine} {tables after : Tables} {supply later : Supply}
  {statement : Statement}

theorem perform_bind {s : Session α} {value : α} (f : α → Session β)
    (h : s.perform engine tables supply = (.ok value, after, later)) :
    (s >>= f).perform engine tables supply = (f value).perform engine after later := by
  change (s.bind f).perform engine tables supply = _
  induction s generalizing tables supply with
  | done other =>
    simp only [perform, Prod.mk.injEq, Except.ok.injEq] at h
    obtain ⟨rfl, rfl, rfl⟩ := h
    rfl
  | fail failure => simp [perform] at h
  | draw next ih => exact ih supply.next h
  | send statement next ih => exact ih _ h

theorem perform_query (h : tables.change statement = .ok after) :
    (query statement).perform engine tables supply =
      (.ok (statement.fetched (engine.select tables statement)), after, supply) := by
  simp [query, perform, Tables.answer, h, Scripted.reply_cells]

theorem perform_read {rows : List statement.Row} (f : List statement.Row → Session β)
    (hrows : statement.fetched (engine.select tables statement) = rows)
    (h : tables.change statement = .ok tables) :
    (query statement >>= f).perform engine tables supply =
      (f rows).perform engine tables supply := by
  rw [perform_bind f (perform_query h), hrows]

theorem perform_execute (h : tables.change statement = .ok after) :
    (execute statement).perform engine tables supply = (.ok (), after, supply) :=
  perform_bind _ (perform_query h)

theorem perform_executeUnique (h : tables.change statement = .ok after) (refused : Failure) :
    (executeUnique statement refused).perform engine tables supply = (.ok (), after, supply) := by
  simp [executeUnique, perform, Tables.answer, h, Scripted.reply_cells]

end Session

end Rbac.Sql
