import Rbac.Sql.Revision
import Rbac.Sql.Schema

namespace Rbac.Sql

inductive Direction where
  | upgrade
  | downgrade
deriving DecidableEq, Repr

namespace Migration

def versionTable : String := "access_control_alembic_version"

def createVersionTable : List String :=
  createTable versionTable
    ["version_num VARCHAR(32) NOT NULL",
     s!"CONSTRAINT {versionTable}_pkc PRIMARY KEY (version_num)"]

def createSchema : List String :=
  s!"CREATE SCHEMA IF NOT EXISTS {Schema.name};" :: Schema.tables.flatMap (·.lines)

def dropSchema : List String :=
  Schema.tables.reverse.map (fun table => s!"DROP TABLE {qualified table.name};")
    ++ [s!"DROP SCHEMA IF EXISTS {Schema.name};"]

/-- The lines that take the database from one revision to another, within one transaction. -/
def script (start finish : Revision) : List String :=
  let steps := match start, finish with
    | .base, .first =>
      createVersionTable ++ [s!"-- Running upgrade {start.text} -> {finish.text}"] ++ createSchema
        ++ [s!"INSERT INTO {versionTable} (version_num) VALUES ('{finish.text}') "
              ++ s!"RETURNING {versionTable}.version_num;"]
    | .first, .base =>
      [s!"-- Running downgrade {start.text} -> {finish.text}"] ++ dropSchema
        ++ [s!"DELETE FROM {versionTable} WHERE {versionTable}.version_num = '{start.text}';"]
    | _, _ => []
  ["BEGIN;"] ++ steps ++ ["COMMIT;"]

def cutRange (range : String) : Except Revision.Flaw (Option String × String) :=
  match (Text.splitOn ':' range.toList).map String.ofList with
  | [start, finish] => .ok (some start, finish)
  | [finish] => .ok (none, finish)
  | _ => .error .severalRanges

/-- Goes up to where a text says; nothing happens if that is not above. -/
def upgradeTo (start : Revision) (text : String) : Except Revision.Flaw (List String) := do
  let finish ← start.above text
  return script start (if start = .first then .first else finish)

/-- Goes down to where a text says. Nothing happens where the database is there already. -/
def downgradeTo (start : Revision) (text : String) : Except Revision.Flaw (List String) := do
  match ← start.below text with
  | .base => return script start .base
  | .first => if start = .first then return script .first .first else .error (.notBelow text)

/-- The script for a range of revisions. An upgrade may name its end alone and then starts from
nothing; a downgrade names both. -/
def scriptFor (direction : Direction) (range : String) : Except Revision.Flaw (List String) := do
  match direction, ← cutRange range with
  | .upgrade, (start, finish) =>
    upgradeTo ((← start.mapM Revision.started).getD .base) finish
  | .downgrade, (some start, finish) => downgradeTo (← Revision.started start) finish
  | .downgrade, (none, _) => .error .noStart

end Migration
end Rbac.Sql
