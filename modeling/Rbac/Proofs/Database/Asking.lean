import Rbac.Proofs.Database.ReadingBack
import Rbac.Proofs.Database.Texts

namespace Rbac.Sql

def Param.list? : Param → Option (List Cell)
  | .cell _ => none
  | .ids values => some (values.map .id)
  | .texts values => some (values.map .text)

/-- Whether a cell stands to a parameter as asked. A null does not, however it is asked. -/
def Relation.holds (relation : Relation) (cell : Cell) (param : Param) : Bool :=
  cell != .null && match relation with
    | .is => param.cell?.any fun value => cell == value
    | .isNot => param.cell?.any fun value => value != .null && cell != value
    | .among => param.list?.any fun values => values.contains cell
    | .notAmong => param.list?.any fun values => !values.contains cell

namespace TableSchema

def titled (table : TableSchema) (nickname : String) (row : List Cell) : List (String × Cell) :=
  (table.titles nickname).zip row

def overwrite (table : TableSchema) (values : List (String × Param)) (row : List Cell) :
    List Cell :=
  (table.titled "" row).map fun entry =>
    ((values.lookup entry.1).bind Param.cell?).getD entry.2

/-- The row that has the values that are given for its columns, and is null in the others. -/
def compose (table : TableSchema) (values : List (String × Param)) : List Cell :=
  (table.titles "").map fun title => ((values.lookup title).bind Param.cell?).getD .null

end TableSchema

/-- The rows of tables, put together in every way. -/
def Tables.combined (tables : Tables) : List (TableSchema × String) → List (List (String × Cell))
  | [] => [[]]
  | (table, nickname) :: rest =>
    (tables.rows table.name).flatMap fun row =>
      (tables.combined rest).map fun others => table.titled nickname row ++ others

namespace Reading

def fitted (reading : Reading) (row : List (String × Cell)) : Bool :=
  reading.joints.all fun joint => (row.lookup joint.1).any fun cell =>
    (row.lookup joint.2).any fun other => Relation.is.holds cell (.cell other)

/-- Whether a row is as conditions ask, if the parameters take their places in order. -/
def met (asks : List Condition) (params : List Param) (row : List (String × Cell)) : Bool :=
  (asks.zip params).all fun ask =>
    (row.lookup ask.1.column).any fun cell => ask.1.relation.holds cell ask.2

def admits (reading : Reading) (params : List Param) (row : List (String × Cell)) : Bool :=
  reading.fitted row && met reading.asks params row

/-- The cell of a row under a title; a number stands for itself. -/
def shown (row : List (String × Cell)) (title : String) : Cell :=
  if title = "1" then .int 1 else (row.lookup title).getD .null

def answer (reading : Reading) (tables : Tables) (params : List Param) : List (List Cell) :=
  let rows := (tables.combined reading.sources).filter (reading.admits params)
  match reading.verb with
  | .select columns => rows.map fun row => columns.map (shown row)
  | .count => [[.int rows.length]]
  | .insert .. | .update _ | .delete => []

def write (reading : Reading) (table : TableSchema) (rows : List (List Cell))
    (params : List Param) : List (List Cell) :=
  let values := reading.verb.written.zip params
  let asked row := reading.admits (params.drop reading.verb.written.length) (table.titled "" row)
  match reading.verb with
  | .select _ | .count => rows
  | .insert _ conflict =>
    let row := table.compose values
    if !conflict.isEmpty && rows.any fun other => table.agree conflict other row then rows
    else rows ++ [row]
  | .update _ => rows.map fun row => if asked row then table.overwrite values row else row
  | .delete => rows.filter fun row => !asked row

end Reading

namespace Schema

theorem roles_titles : roles.titles "" = ["id", "name", "description", "scope_id", "scope_type",
    "is_system", "created_at", "updated_at"] := by
  simp [TableSchema.titles, roles]

theorem roles_nodup : (roles.titles "").Nodup := by
  simp [roles_titles]

theorem roles_titles_r : roles.titles "r." = ["r.id", "r.name", "r.description", "r.scope_id",
    "r.scope_type", "r.is_system", "r.created_at", "r.updated_at"] := by
  simp [TableSchema.titles, roles]

theorem permissions_titles : permissions.titles "" = ["id", "role_id", "action", "created_at"] := by
  simp [TableSchema.titles, permissions]

theorem permissions_nodup : (permissions.titles "").Nodup := by
  simp [permissions_titles]

theorem assignments_titles : assignments.titles "" = ["id", "role_id", "user_id", "scope_id",
    "scope_type", "assigned_at", "assigned_by"] := by
  simp [TableSchema.titles, assignments]

theorem assignments_nodup : (assignments.titles "").Nodup := by
  simp [assignments_titles]

theorem assignments_titles_ra : assignments.titles "ra." = ["ra.id", "ra.role_id", "ra.user_id",
    "ra.scope_id", "ra.scope_type", "ra.assigned_at", "ra.assigned_by"] := by
  simp [TableSchema.titles, assignments]

@[simp] theorem roles_titled (row : RoleRow) :
    roles.titled "" row.cells =
      [("id", .id row.id), ("name", .text row.name), ("description", .ofText? row.description),
        ("scope_id", .id row.scopeId), ("scope_type", .text row.scopeType),
        ("is_system", .bool row.isSystem), ("created_at", .moment row.createdAt),
        ("updated_at", .ofMoment? row.updatedAt)] := by
  rw [TableSchema.titled, roles_titles]
  rfl

@[simp] theorem roles_titled_r (row : RoleRow) :
    roles.titled "r." row.cells =
      [("r.id", .id row.id), ("r.name", .text row.name),
        ("r.description", .ofText? row.description), ("r.scope_id", .id row.scopeId),
        ("r.scope_type", .text row.scopeType), ("r.is_system", .bool row.isSystem),
        ("r.created_at", .moment row.createdAt), ("r.updated_at", .ofMoment? row.updatedAt)] := by
  rw [TableSchema.titled, roles_titles_r]
  rfl

@[simp] theorem permissions_titled (permission : Permission) :
    permissions.titled "" (permissionCells permission) =
      [("id", .id permission.id), ("role_id", .id permission.role),
        ("action", .text permission.action), ("created_at", .moment permission.createdAt)] := by
  rw [TableSchema.titled, permissions_titles]
  rfl

@[simp] theorem assignments_titled (row : AssignmentRow) :
    assignments.titled "" row.cells =
      [("id", .id row.id), ("role_id", .id row.role), ("user_id", .id row.user),
        ("scope_id", .id row.scopeId), ("scope_type", .text row.scopeType),
        ("assigned_at", .moment row.assignedAt), ("assigned_by", .id row.assignedBy)] := by
  rw [TableSchema.titled, assignments_titles]
  rfl

@[simp] theorem assignments_titled_ra (row : AssignmentRow) :
    assignments.titled "ra." row.cells =
      [("ra.id", .id row.id), ("ra.role_id", .id row.role), ("ra.user_id", .id row.user),
        ("ra.scope_id", .id row.scopeId), ("ra.scope_type", .text row.scopeType),
        ("ra.assigned_at", .moment row.assignedAt), ("ra.assigned_by", .id row.assignedBy)] := by
  rw [TableSchema.titled, assignments_titles_ra]
  rfl

end Schema

theorem map_lookup_zip {α β : Type} {titles : List String} {row : List α}
    (hlength : titles.length = row.length) (hnodup : titles.Nodup) (f : Option α → β) :
    (titles.map fun title => f ((titles.zip row).lookup title)) =
      row.map fun cell => f (some cell) := by
  induction titles generalizing row with
  | nil => rw [List.length_eq_zero_iff.mp hlength.symm, List.map_nil, List.map_nil]
  | cons title rest ih =>
    cases row with
    | nil => simp at hlength
    | cons cell cells =>
      obtain ⟨hnew, hnodup⟩ := List.nodup_cons.mp hnodup
      have hrest : (rest.map fun other => f (((title, cell) :: rest.zip cells).lookup other)) =
          rest.map fun other => f ((rest.zip cells).lookup other) := by
        apply List.map_congr_left
        intro other hother
        have hne : (other == title) = false := by
          rw [beq_eq_false_iff_ne]
          exact ne_of_mem_of_not_mem hother hnew
        rw [List.lookup_cons, hne]
      rw [List.zip_cons_cons, List.map_cons, hrest, ih (by simpa using hlength) hnodup,
        List.lookup_cons_self, List.map_cons]

theorem Reading.shown_titles {titles : List String} {row : List Cell}
    (hlength : titles.length = row.length) (hnodup : titles.Nodup) (hone : "1" ∉ titles) :
    titles.map (shown (titles.zip row)) = row := by
  have hshown : titles.map (shown (titles.zip row)) =
      titles.map fun title => ((titles.zip row).lookup title).getD .null :=
    List.map_congr_left fun title htitle => if_neg (ne_of_mem_of_not_mem htitle hone)
  rw [hshown, map_lookup_zip hlength hnodup fun cell => cell.getD .null]
  exact List.map_id row

namespace Relation

variable (a b : Uuid) (s t : Text)

@[simp] theorem is_holds_id : Relation.is.holds (.id a) (.cell (.id b)) = decide (a = b) := by
  rw [Bool.eq_iff_iff]
  simp [holds, Param.cell?]

@[simp] theorem is_holds_text :
    Relation.is.holds (.text s) (.cell (.text t)) = decide (s = t) := by
  rw [Bool.eq_iff_iff]
  simp [holds, Param.cell?]

@[simp] theorem isNot_holds_id :
    Relation.isNot.holds (.id a) (.cell (.id b)) = decide (a ≠ b) := by
  rw [Bool.eq_iff_iff]
  simp [holds, Param.cell?]

@[simp] theorem among_holds_id (ids : List Uuid) :
    Relation.among.holds (.id a) (.ids ids) = decide (a ∈ ids) := by
  simp [holds, Param.list?]

@[simp] theorem notAmong_holds_text (texts : List Text) :
    Relation.notAmong.holds (.text s) (.texts texts) = decide (s ∉ texts) := by
  simp [holds, Param.list?]

end Relation

theorem Tables.combined_one (tables : Tables) (table : TableSchema) (nickname : String) :
    tables.combined [(table, nickname)] = (tables.rows table.name).map (table.titled nickname) := by
  simp only [combined, List.map_cons, List.map_nil, List.append_nil]
  exact List.map_eq_flatMap.symm

namespace Reading

variable {tables : Tables} {params : List Param} {asks : List Condition}

section OfTable

variable {table : TableSchema} {α : Type} {rows : List α} (cells : α → List Cell) {keeps : α → Bool}

theorem combined_ofTable (verb : Verb) (hrows : tables.rows table.name = rows.map cells)
    (hkeeps : ∀ row, met asks params (table.titled "" (cells row)) = keeps row) :
    (tables.combined (ofTable table verb asks).sources).filter
        ((ofTable table verb asks).admits params) =
      (rows.filter keeps).map fun row => table.titled "" (cells row) := by
  have hadmits : ∀ row, (ofTable table verb asks).admits params (table.titled "" (cells row)) =
      keeps row := hkeeps
  rw [ofTable, Tables.combined_one, hrows, List.map_map, List.filter_map]
  exact congrArg (List.map _) (List.filter_congr fun row _ => hadmits row)

theorem answer_count (hrows : tables.rows table.name = rows.map cells)
    (hkeeps : ∀ row, met asks params (table.titled "" (cells row)) = keeps row) :
    (ofTable table .count asks).answer tables params = [[.int (rows.countP keeps)]] := by
  change [[Cell.int ((tables.combined _).filter _).length]] = _
  rw [combined_ofTable cells .count hrows hkeeps, List.length_map, List.countP_eq_length_filter]

theorem answer_one (hrows : tables.rows table.name = rows.map cells)
    (hkeeps : ∀ row, met asks params (table.titled "" (cells row)) = keeps row) :
    (ofTable table (.select ["1"]) asks).answer tables params =
      ((rows.filter keeps).map fun _ => ()).map fun (_ : Unit) => [.int 1] := by
  change ((tables.combined _).filter _).map _ = _
  rw [combined_ofTable cells _ hrows hkeeps, List.map_map, List.map_map]
  rfl

theorem answer_all (hrows : tables.rows table.name = rows.map cells)
    (hkeeps : ∀ row, met asks params (table.titled "" (cells row)) = keeps row)
    (hlength : ∀ row, (table.titles "").length = (cells row).length)
    (hnodup : (table.titles "").Nodup) (hone : "1" ∉ table.titles "") :
    (ofTable table (.select (table.titles "")) asks).answer tables params =
      (rows.filter keeps).map cells := by
  change ((tables.combined _).filter _).map _ = _
  rw [combined_ofTable cells _ hrows hkeeps, List.map_map]
  exact List.map_congr_left fun row _ => shown_titles (hlength row) hnodup hone

end OfTable

end Reading

theorem TableSchema.compose_titles {table : TableSchema} {row : List Cell}
    (hlength : (table.titles "").length = row.length) (hnodup : (table.titles "").Nodup) :
    table.compose ((table.titles "").zip (row.map .cell)) = row := by
  rw [compose, map_lookup_zip (by rwa [List.length_map]) hnodup fun value =>
    (value.bind Param.cell?).getD .null, List.map_map]
  exact List.map_id row

namespace Reading

variable {table : TableSchema} {asks : List Condition} {params : List Param} {α : Type}
  {rows : List α} (cells : α → List Cell)

/-- An insertion adds a row, or leaves it out if it conflicts with one that is there. -/
theorem write_insert {conflict : List String} {rows : List (List Cell)} {row : List Cell}
    (hlength : (table.titles "").length = row.length) (hnodup : (table.titles "").Nodup) :
    (ofTable table (.insert (table.titles "") conflict) []).write table rows (row.map .cell) =
      if !conflict.isEmpty && rows.any fun other => table.agree conflict other row then rows
      else rows ++ [row] := by
  change (if !conflict.isEmpty && rows.any fun other => table.agree conflict other _ then rows
    else rows ++ [_]) = _
  rw [ofTable, Verb.written, TableSchema.compose_titles hlength hnodup]

theorem write_update {columns : List String} {chosen : α → Bool} {revise : α → α}
    (hchosen : ∀ row,
      met asks (params.drop columns.length) (table.titled "" (cells row)) = chosen row)
    (hrevise : ∀ row, table.overwrite (columns.zip params) (cells row) = cells (revise row)) :
    (ofTable table (.update columns) asks).write table (rows.map cells) params =
      (rows.map fun row => if chosen row then revise row else row).map cells := by
  have hadmits : ∀ row, (ofTable table (.update columns) asks).admits (params.drop columns.length)
      (table.titled "" (cells row)) = chosen row := hchosen
  change (rows.map cells).map (fun row => if (ofTable table (.update columns) asks).admits
    (params.drop columns.length) (table.titled "" row) then
      table.overwrite (columns.zip params) row else row) = _
  rw [List.map_map, List.map_map]
  apply List.map_congr_left
  intro row _
  simp only [Function.comp_apply, hadmits, hrevise]
  split <;> rfl

theorem write_delete {keeps : α → Bool}
    (hkeeps : ∀ row, met asks params (table.titled "" (cells row)) = !keeps row) :
    (ofTable table .delete asks).write table (rows.map cells) params =
      (rows.filter keeps).map cells := by
  have hadmits : ∀ row, (ofTable table .delete asks).admits params (table.titled "" (cells row)) =
      !keeps row := hkeeps
  change (rows.map cells).filter (fun row => !(ofTable table .delete asks).admits params
    (table.titled "" row)) = _
  rw [List.filter_map]
  refine congrArg (List.map cells) (List.filter_congr fun row _ => ?_)
  rw [Function.comp_apply, hadmits, Bool.not_not]

end Reading

end Rbac.Sql
