import Rbac.Sql.Statement

namespace Rbac.Sql

def optionalText? : Cell → Option (Option Text)
  | .null => some none
  | .text value => some (some value)
  | _ => none

def optionalMoment? : Cell → Option (Option Instant)
  | .null => some none
  | .moment value => some (some value)
  | _ => none

def RoleRow.ofCells? : List Cell → Option RoleRow
  | .id id :: .text name :: description :: .id scopeId :: .text scopeType :: .bool isSystem
      :: .moment createdAt :: updatedAt :: _ => do
    return ⟨id, name, ← optionalText? description, scopeId, scopeType, isSystem, createdAt,
      ← optionalMoment? updatedAt⟩
  | _ => none

def AssignmentRow.ofCells? : List Cell → Option AssignmentRow
  | [.id id, .id role, .id user, .id scopeId, .text scopeType, .moment assignedAt,
      .id assignedBy] =>
    some ⟨id, role, user, scopeId, scopeType, assignedAt, assignedBy⟩
  | _ => none

def permissionOfCells? : List Cell → Option Permission
  | .id id :: .id role :: .text action :: .moment createdAt :: _ =>
    some ⟨id, role, action, createdAt⟩
  | _ => none

/-- The columns of a joined row that are the assignment's. -/
def assignmentWidth : Nat := 7

def joinedOfCells? (cells : List Cell) : Option (AssignmentRow × RoleRow) := do
  let assignment ← AssignmentRow.ofCells? (cells.take assignmentWidth)
  let role ← RoleRow.ofCells? (cells.drop assignmentWidth)
  return (assignment, role)

/-- The rows of an answer that are read. Where one row is asked for the others are looked over, and
a row without cells is none. -/
def Statement.readable (rows : List (List Cell)) : Statement → List (List Cell)
  | .ping | .selectRole _ | .countAssignments _ => (rows.take 1).filter fun cells => !cells.isEmpty
  | _ => rows

def Statement.readRow? : (statement : Statement) → List Cell → Option statement.Row
  | .ping, cells | .countAssignments _, cells => cells.head?
  | .selectRole _, cells | .selectRolesIn _, cells => RoleRow.ofCells? cells
  | .selectPermissions _, cells => permissionOfCells? cells
  | .selectAssignment _, cells | .selectAssignmentOf .., cells | .selectAssignmentsOf .., cells =>
    joinedOfCells? cells
  | .findRoleName .., _ | .findAssignment .., _ | .insertRole _, _ | .updateRole .., _
  | .deleteRole _, _ | .insertPermissions _, _ | .trimPermissions .., _ | .insertAssignment _, _
  | .deleteAssignment _, _ => some ()

theorem RoleRow.ofCells?_cells (row : RoleRow) : RoleRow.ofCells? row.cells = some row := by
  cases row with
  | mk id name description scopeId scopeType isSystem createdAt updatedAt =>
    cases description <;> cases updatedAt <;> rfl

theorem AssignmentRow.ofCells?_cells (row : AssignmentRow) :
    AssignmentRow.ofCells? row.cells = some row := rfl

theorem joinedOfCells?_append (assignment : AssignmentRow) (role : RoleRow) :
    joinedOfCells? (assignment.cells ++ role.cells) = some (assignment, role) := by
  have hr := RoleRow.ofCells?_cells role
  simp only [joinedOfCells?, assignmentWidth, AssignmentRow.cells, List.cons_append,
    List.nil_append, List.take_succ_cons, List.take_zero, List.drop_succ_cons, List.drop_zero, hr]
  rfl

end Rbac.Sql
