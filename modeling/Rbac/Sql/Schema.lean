namespace Rbac.Sql

inductive ColumnType where
  | uuid
  | varchar (limit : Nat)
  | boolean
  | timestamp
deriving DecidableEq, Repr

structure Column where
  name : String
  type : ColumnType
  nullable : Bool := false
  default : Option String := none
deriving DecidableEq, Repr

/-- What happens to the rows that refer to a row that is deleted. -/
inductive OnDelete where
  | cascade
  | restrict
deriving DecidableEq, Repr

inductive Constraint where
  | primaryKey (column : String)
  | oneOf (name column : String) (values : List String)
  | foreignKey (column table : String) (onDelete : OnDelete)
deriving DecidableEq, Repr

structure Index where
  name : String
  columns : List String
  unique : Bool := false
deriving DecidableEq, Repr

structure TableSchema where
  name : String
  columns : List Column
  constraints : List Constraint
  indexes : List Index
deriving DecidableEq, Repr

namespace Schema

def name : String := "access_control"

def scopeTypes : List String := ["Organization", "Workspace"]

def roles : TableSchema where
  name := "roles"
  columns := [
    { name := "id", type := .uuid },
    { name := "name", type := .varchar 100 },
    { name := "description", type := .varchar 500, nullable := true },
    { name := "scope_id", type := .uuid },
    { name := "scope_type", type := .varchar 20 },
    { name := "is_system", type := .boolean, default := some "false" },
    { name := "created_at", type := .timestamp },
    { name := "updated_at", type := .timestamp, nullable := true }]
  constraints := [.primaryKey "id", .oneOf "ck_roles_scope_type" "scope_type" scopeTypes]
  indexes := [
    { name := "ix_roles_name_scope", columns := ["name", "scope_id", "scope_type"],
      unique := true },
    { name := "ix_roles_scope", columns := ["scope_id", "scope_type"] }]

def permissions : TableSchema where
  name := "permissions"
  columns := [
    { name := "id", type := .uuid },
    { name := "role_id", type := .uuid },
    { name := "action", type := .varchar 200 },
    { name := "created_at", type := .timestamp }]
  constraints := [.primaryKey "id", .foreignKey "role_id" "roles" .cascade]
  indexes := [
    { name := "ix_permissions_role_action", columns := ["role_id", "action"], unique := true }]

def assignments : TableSchema where
  name := "role_assignments"
  columns := [
    { name := "id", type := .uuid },
    { name := "role_id", type := .uuid },
    { name := "user_id", type := .uuid },
    { name := "scope_id", type := .uuid },
    { name := "scope_type", type := .varchar 20 },
    { name := "assigned_at", type := .timestamp },
    { name := "assigned_by", type := .uuid }]
  constraints := [.primaryKey "id", .foreignKey "role_id" "roles" .restrict]
  indexes := [
    { name := "ix_role_assignments_role_user_scope", columns := ["role_id", "user_id", "scope_id"],
      unique := true },
    { name := "ix_role_assignments_user_scope", columns := ["user_id", "scope_id"] }]

/-- The tables in the order in which they are created; a table refers only to earlier ones. -/
def tables : List TableSchema := [roles, permissions, assignments]

end Schema

def ColumnType.sql : ColumnType → String
  | .uuid => "UUID"
  | .varchar limit => s!"VARCHAR({limit})"
  | .boolean => "BOOLEAN"
  | .timestamp => "TIMESTAMP WITH TIME ZONE"

def Column.sql (column : Column) : String :=
  column.name ++ " " ++ column.type.sql ++ (column.default.map (" DEFAULT " ++ ·)).getD ""
    ++ (if column.nullable then "" else " NOT NULL")

def OnDelete.sql : OnDelete → String
  | .cascade => "CASCADE"
  | .restrict => "RESTRICT"

def qualified (table : String) : String :=
  Schema.name ++ "." ++ table

def commaSeparated (parts : List String) : String :=
  ", ".intercalate parts

def Constraint.sql : Constraint → String
  | .primaryKey column => s!"PRIMARY KEY ({column})"
  | .oneOf name column values =>
    let listed := commaSeparated (values.map fun value => s!"'{value}'")
    s!"CONSTRAINT {name} CHECK ({column} IN ({listed}))"
  | .foreignKey column table onDelete =>
    s!"FOREIGN KEY({column}) REFERENCES {qualified table} (id) ON DELETE {onDelete.sql}"

def definitionLines : List String → List String
  | [] => []
  | [line] => ["    " ++ line]
  | line :: rest => ("    " ++ line ++ ", ") :: definitionLines rest

def createTable (name : String) (lines : List String) : List String :=
  s!"CREATE TABLE {name} (" :: definitionLines lines ++ [");"]

def Index.sql (table : String) (index : Index) : String :=
  "CREATE " ++ (if index.unique then "UNIQUE " else "")
    ++ s!"INDEX {index.name} ON {qualified table} ({commaSeparated index.columns});"

def TableSchema.lines (table : TableSchema) : List String :=
  createTable (qualified table.name) (table.columns.map (·.sql) ++ table.constraints.map (·.sql))
    ++ table.indexes.map (·.sql table.name)

end Rbac.Sql
