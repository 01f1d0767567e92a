import Rbac.Sql.Schema
import Rbac.Sql.Session

namespace Rbac.Sql

def Column.takes (column : Column) : Cell → Bool
  | .null => column.nullable
  | .id _ => column.type = .uuid
  | .text value =>
    match column.type with
    | .varchar limit => value.length ≤ limit
    | _ => false
  | .bool _ => column.type = .boolean
  | .moment _ => column.type = .timestamp
  | .int _ | .real _ => false

namespace Column

variable (name : String) (limit : Nat) (nullable : Bool) (default : Option String)

@[simp] theorem takes_id (column : Column) (value : Uuid) :
    column.takes (.id value) = decide (column.type = .uuid) := rfl

@[simp] theorem takes_bool (column : Column) (value : Bool) :
    column.takes (.bool value) = decide (column.type = .boolean) := rfl

@[simp] theorem takes_moment (column : Column) (value : Instant) :
    column.takes (.moment value) = decide (column.type = .timestamp) := rfl

@[simp] theorem takes_text (value : Text) :
    (Column.mk name (.varchar limit) nullable default).takes (.text value) =
      decide (value.length ≤ limit) := rfl

@[simp] theorem takes_ofText? (value : Option Text) :
    (Column.mk name (.varchar limit) true default).takes (.ofText? value) =
      value.all fun text => decide (text.length ≤ limit) := by
  cases value with
  | none => rfl
  | some text => rfl

@[simp] theorem takes_ofMoment? (value : Option Instant) :
    (Column.mk name .timestamp true default).takes (.ofMoment? value) = true := by
  cases value with
  | none => rfl
  | some moment => rfl

end Column

namespace TableSchema

def cell? (table : TableSchema) (row : List Cell) (column : String) : Option Cell :=
  ((table.columns.zip row).find? fun entry => entry.1.name == column).map (·.2)

def fits (table : TableSchema) (row : List Cell) : Bool :=
  row.length == table.columns.length
    && (table.columns.zip row).all (fun entry => entry.1.takes entry.2)
    && table.constraints.all fun
      | .oneOf _ column values =>
        values.any fun value => table.cell? row column == some (.text value)
      | _ => true

def keys (table : TableSchema) : List (List String) :=
  let primary := table.constraints.filterMap fun
    | .primaryKey column => some [column]
    | _ => none
  primary ++ (table.indexes.filter (·.unique)).map (·.columns)

/-- Whether two rows agree in columns. A null agrees with nothing. -/
def agree (table : TableSchema) (columns : List String) (a b : List Cell) : Bool :=
  columns.all fun column =>
    match table.cell? a column, table.cell? b column with
    | some left, some right => left == right && left != .null
    | _, _ => false

/-- Whether two rows cannot both be in the table. -/
def clash (table : TableSchema) (a b : List Cell) : Bool :=
  table.keys.any fun columns => table.agree columns a b

def references (table : TableSchema) (row : List Cell) : List (String × Option Cell) :=
  table.constraints.filterMap fun
    | .foreignKey column target _ => some (target, table.cell? row column)
    | _ => none

/-- Whether a row refers to the row of a table with an id, so that deleting that row has the given
effect. -/
def refersTo (table : TableSchema) (onDelete : OnDelete) (target : String) (id : Uuid)
    (row : List Cell) : Bool :=
  table.constraints.any fun
    | .foreignKey column other effect =>
      effect == onDelete && other == target && table.cell? row column == some (.id id)
    | _ => false

end TableSchema

namespace Schema

theorem roles_keys : roles.keys = [["id"], ["name", "scope_id", "scope_type"]] := rfl

theorem permissions_keys : permissions.keys = [["id"], ["role_id", "action"]] := rfl

theorem assignments_keys : assignments.keys = [["id"], ["role_id", "user_id", "scope_id"]] := rfl

theorem roles_clash {a b : RoleRow} :
    roles.clash a.cells b.cells = true ↔
      a.id = b.id ∨ (a.name = b.name ∧ a.scopeId = b.scopeId ∧ a.scopeType = b.scopeType) := by
  rw [TableSchema.clash, roles_keys]
  simp [TableSchema.agree, TableSchema.cell?, roles, RoleRow.cells]

theorem permissions_agree {a b : Permission} :
    permissions.agree ["role_id", "action"] (permissionCells a) (permissionCells b) = true ↔
      a.role = b.role ∧ a.action = b.action := by
  simp [TableSchema.agree, TableSchema.cell?, permissions, permissionCells]

theorem permissions_clash {a b : Permission} :
    permissions.clash (permissionCells a) (permissionCells b) = true ↔
      a.id = b.id ∨ (a.role = b.role ∧ a.action = b.action) := by
  rw [TableSchema.clash, permissions_keys]
  simp [TableSchema.agree, TableSchema.cell?, permissions, permissionCells]

theorem assignments_clash {a b : AssignmentRow} :
    assignments.clash a.cells b.cells = true ↔
      a.id = b.id ∨ (a.role = b.role ∧ a.user = b.user ∧ a.scopeId = b.scopeId) := by
  rw [TableSchema.clash, assignments_keys]
  simp [TableSchema.agree, TableSchema.cell?, assignments, AssignmentRow.cells]

theorem roles_fits {row : RoleRow} (hname : row.name.length ≤ 100)
    (hdescription : ∀ text ∈ row.description, text.length ≤ 500)
    (htype : row.scopeType ∈ scopeTypes.map Text.ofString) : roles.fits row.cells = true := by
  have hshort : row.scopeType.length ≤ 20 := by
    have hall : ∀ type ∈ scopeTypes.map Text.ofString, type.length ≤ 20 := by decide
    exact hall row.scopeType htype
  have hspelled : ∃ type ∈ scopeTypes, row.scopeType = Text.ofString type := by
    obtain ⟨type, htype, hrow⟩ := List.mem_map.mp htype
    exact ⟨type, htype, hrow.symm⟩
  have hdescribed : (row.description.all fun text => decide (text.length ≤ 500)) = true := by
    cases htext : row.description with
    | none => rfl
    | some text => simpa using hdescription text htext
  simp [TableSchema.fits, TableSchema.cell?, roles, RoleRow.cells, hname, hshort, hdescribed,
    hspelled]

theorem permissions_fits {permission : Permission} (h : permission.action.length ≤ 200) :
    permissions.fits (permissionCells permission) = true := by
  simp [TableSchema.fits, permissions, permissionCells, h]

theorem assignments_fits {row : AssignmentRow} (htype : row.scopeType.length ≤ 20) :
    assignments.fits row.cells = true := by
  simp [TableSchema.fits, assignments, AssignmentRow.cells, htype]

end Schema
end Rbac.Sql
