import Rbac.Proofs.Database.Meaning

namespace Rbac.Sql

inductive Token where
  | word (text : String)
  | mark (mark : Char)
  /-- The place of a parameter. -/
  | place
deriving DecidableEq

namespace Token

def word? : Token → Option String
  | .word text => some text
  | .mark _ | .place => none

def marks : List Char := ['(', ')', ',', '=', '<', '>', '*']

def ofWord (word : List Char) : List Token :=
  if word.isEmpty then [] else [.word (String.ofList word)]

/-- Reads a text, part of a word of which has been read already. -/
def readFrom (word : List Char) : List Char → List Token
  | [] => ofWord word
  | '%' :: 's' :: rest => ofWord word ++ .place :: readFrom [] rest
  | c :: rest =>
    if c = ' ' then ofWord word ++ readFrom [] rest
    else if marks.contains c then ofWord word ++ .mark c :: readFrom [] rest
    else readFrom (word ++ [c]) rest

def read (text : String) : List Token :=
  readFrom [] text.toList

def before (keyword : String) (tokens : List Token) : List Token :=
  tokens.takeWhile (· ≠ .word keyword)

def behind (keyword : String) (tokens : List Token) : List Token :=
  (tokens.dropWhile (· ≠ .word keyword)).drop 1

def listed (tokens : List Token) : List String :=
  ((tokens.dropWhile (· ≠ .mark '(')).takeWhile (· ≠ .mark ')')).filterMap word?

end Token

/-- How a column has to stand to a parameter. -/
inductive Relation where
  | is
  | isNot
  | among
  | notAmong
deriving DecidableEq

structure Condition where
  column : String
  relation : Relation
deriving DecidableEq

/-- The conditions that take parameters, in the order of their places. -/
def conditions : List Token → List Condition
  | .word column :: .mark '=' :: .place :: rest => ⟨column, .is⟩ :: conditions rest
  | .word column :: .mark '<' :: .mark '>' :: .place :: rest => ⟨column, .isNot⟩ :: conditions rest
  | .word "NOT" :: .mark '(' :: .word column :: .mark '=' :: .word "ANY" :: .mark '(' :: .place
      :: rest => ⟨column, .notAmong⟩ :: conditions rest
  | .word column :: .mark '=' :: .word "ANY" :: .mark '(' :: .place :: rest =>
    ⟨column, .among⟩ :: conditions rest
  | _ :: rest => conditions rest
  | [] => []

def joints : List Token → List (String × String)
  | .word "ON" :: .word one :: .mark '=' :: .word other :: rest => (one, other) :: joints rest
  | _ :: rest => joints rest
  | [] => []

/-- What stands before the columns of a table: the name that it is given, if it is given one. -/
def nickname : List Token → String
  | .word name :: _ => if name.toList.all Char.isLower then name ++ "." else ""
  | _ => ""

def sources : List Token → List (TableSchema × String)
  | .word name :: rest =>
    match Schema.tables.find? fun table => qualified table.name == name with
    | some table => (table, nickname rest) :: sources rest
    | none => sources rest
  | _ :: rest => sources rest
  | [] => []

inductive Verb where
  | select (columns : List String)
  | count
  /-- Rows that agree with one that is there in the columns of the second list are left out. -/
  | insert (columns conflict : List String)
  | update (columns : List String)
  | delete
deriving DecidableEq

namespace Verb

/-- The verb of a text; what is not known to be a write asks for nothing. -/
def of : List Token → Verb
  | .word "SELECT" :: .word "COUNT" :: _ => .count
  | .word "SELECT" :: rest => .select ((Token.before "FROM" rest).filterMap Token.word?)
  | .word "INSERT" :: rest =>
    .insert (Token.listed rest) (Token.listed (Token.behind "CONFLICT" rest))
  | .word "UPDATE" :: rest => .update ((conditions (Token.before "WHERE" rest)).map (·.column))
  | .word "DELETE" :: _ => .delete
  | _ => .select []

def written : Verb → List String
  | .insert columns _ | .update columns => columns
  | .select _ | .count | .delete => []

end Verb

/-- What a text is read as. -/
structure Reading where
  verb : Verb
  /-- The tables, each with what stands before its columns. -/
  sources : List (TableSchema × String)
  joints : List (String × String)
  asks : List Condition
deriving DecidableEq

namespace Reading

def ofTokens (tokens : List Token) : Reading :=
  { verb := .of tokens, sources := Sql.sources tokens, joints := Sql.joints tokens,
    asks := conditions (Token.behind "WHERE" tokens) }

def of (text : String) : Reading :=
  ofTokens (Token.read text)

def arity (reading : Reading) : Nat :=
  reading.verb.written.length + reading.asks.length

def ofTable (table : TableSchema) (verb : Verb) (asks : List Condition) : Reading :=
  { verb, sources := [(table, "")], joints := [], asks }

end Reading

/-- How many places for parameters a text has. -/
def places (text : String) : Nat :=
  (Token.read text).count .place

def TableSchema.titles (table : TableSchema) (nickname : String) : List String :=
  table.columns.map fun column => nickname ++ column.name

/-- A statement without what it is about. -/
inductive Form where
  | ping
  | selectRole
  | selectRolesIn
  | findRoleName (excepted : Bool)
  | insertRole
  | updateRole
  | deleteRole
  | selectPermissions
  | insertPermissions
  | trimPermissions
  | selectAssignment
  | selectAssignmentOf
  | selectAssignmentsOf
  | findAssignment
  | countAssignments
  | insertAssignment
  | deleteAssignment
deriving DecidableEq

namespace Form

def all : List Form :=
  [.ping, .selectRole, .selectRolesIn, .findRoleName false, .findRoleName true, .insertRole,
    .updateRole, .deleteRole, .selectPermissions, .insertPermissions, .trimPermissions,
    .selectAssignment, .selectAssignmentOf, .selectAssignmentsOf, .findAssignment,
    .countAssignments, .insertAssignment, .deleteAssignment]

theorem mem_all (form : Form) : form ∈ all := by
  cases form with
  | findRoleName excepted => cases excepted <;> decide
  | _ => decide

def blank : Form → Statement
  | .ping => .ping
  | .selectRole => .selectRole (Uuid.ofNat 0)
  | .selectRolesIn => .selectRolesIn ⟨.organization, Uuid.ofNat 0⟩
  | .findRoleName excepted =>
    .findRoleName "" ⟨.organization, Uuid.ofNat 0⟩ (if excepted then some (Uuid.ofNat 0) else none)
  | .insertRole => .insertRole ⟨Uuid.ofNat 0, "", none, Uuid.ofNat 0, "", false, .epoch, none⟩
  | .updateRole => .updateRole (Uuid.ofNat 0) "" none none
  | .deleteRole => .deleteRole (Uuid.ofNat 0)
  | .selectPermissions => .selectPermissions []
  | .insertPermissions => .insertPermissions []
  | .trimPermissions => .trimPermissions (Uuid.ofNat 0) []
  | .selectAssignment => .selectAssignment (Uuid.ofNat 0)
  | .selectAssignmentOf => .selectAssignmentOf (Uuid.ofNat 0) (Uuid.ofNat 0) (Uuid.ofNat 0)
  | .selectAssignmentsOf => .selectAssignmentsOf (Uuid.ofNat 0) (Uuid.ofNat 0)
  | .findAssignment => .findAssignment (Uuid.ofNat 0) (Uuid.ofNat 0) (Uuid.ofNat 0)
  | .countAssignments => .countAssignments (Uuid.ofNat 0)
  | .insertAssignment =>
    .insertAssignment ⟨Uuid.ofNat 0, Uuid.ofNat 0, Uuid.ofNat 0, Uuid.ofNat 0, "", .epoch,
      Uuid.ofNat 0⟩
  | .deleteAssignment => .deleteAssignment (Uuid.ofNat 0)

def text (form : Form) : String :=
  form.blank.sql

def ofRoles (asks : List Condition) : Reading :=
  { verb := .select (Schema.roles.titles "r."), sources := [(Schema.roles, "r.")], joints := [],
    asks }

def ofAssignments (asks : List Condition) : Reading :=
  { verb := .select (Schema.assignments.titles "ra." ++ Schema.roles.titles "r."),
    sources := [(Schema.assignments, "ra."), (Schema.roles, "r.")],
    joints := [("r.id", "ra.role_id")], asks }

def reading : Form → Reading
  | .ping => { verb := .select ["1"], sources := [], joints := [], asks := [] }
  | .selectRole => ofRoles [⟨"r.id", .is⟩]
  | .selectRolesIn => ofRoles [⟨"r.scope_id", .is⟩, ⟨"r.scope_type", .is⟩]
  | .findRoleName excepted =>
    .ofTable Schema.roles (.select ["1"]) ([⟨"name", .is⟩, ⟨"scope_id", .is⟩, ⟨"scope_type", .is⟩]
      ++ if excepted then [⟨"id", .isNot⟩] else [])
  | .insertRole => .ofTable Schema.roles (.insert (Schema.roles.titles "") []) []
  | .updateRole =>
    .ofTable Schema.roles (.update ["name", "description", "updated_at"]) [⟨"id", .is⟩]
  | .deleteRole => .ofTable Schema.roles .delete [⟨"id", .is⟩]
  | .selectPermissions =>
    .ofTable Schema.permissions (.select (Schema.permissions.titles "")) [⟨"role_id", .among⟩]
  | .insertPermissions =>
    .ofTable Schema.permissions (.insert (Schema.permissions.titles "") ["role_id", "action"]) []
  | .trimPermissions =>
    .ofTable Schema.permissions .delete [⟨"role_id", .is⟩, ⟨"action", .notAmong⟩]
  | .selectAssignment => ofAssignments [⟨"ra.id", .is⟩]
  | .selectAssignmentOf =>
    ofAssignments [⟨"ra.role_id", .is⟩, ⟨"ra.user_id", .is⟩, ⟨"ra.scope_id", .is⟩]
  | .selectAssignmentsOf => ofAssignments [⟨"ra.user_id", .is⟩, ⟨"ra.scope_id", .is⟩]
  | .findAssignment =>
    .ofTable Schema.assignments (.select ["1"])
      [⟨"role_id", .is⟩, ⟨"user_id", .is⟩, ⟨"scope_id", .is⟩]
  | .countAssignments => .ofTable Schema.assignments .count [⟨"role_id", .is⟩]
  | .insertAssignment =>
    .ofTable Schema.assignments (.insert (Schema.assignments.titles "") []) []
  | .deleteAssignment => .ofTable Schema.assignments .delete [⟨"id", .is⟩]

/-- Each text is read as its form says, and no place in it is left unread. The text is put together
from parts, so it is read as a list of characters. -/
theorem read_text (form : Form) :
    Reading.of form.text = form.reading ∧ places form.text = form.reading.arity := by
  unfold Reading.of places Token.read
  cases form with
  | ping | updateRole | deleteRole | trimPermissions | countAssignments | deleteAssignment =>
    delta text blank Statement.sql
    dsimp only
    rw [String.toList_ofList]
    decide +kernel
  | insertRole | selectPermissions | insertPermissions | findAssignment | insertAssignment =>
    delta text blank Statement.sql
    simp only [String.toList_append]
    repeat rw [String.toList_ofList]
    decide +kernel
  | findRoleName excepted =>
    delta text blank Statement.sql
    cases excepted with
    | false | true =>
      simp only [Option.isSome, if_true, if_neg Bool.false_ne_true, String.toList_append]
      repeat rw [String.toList_ofList]
      decide +kernel
  | selectRole | selectRolesIn =>
    delta text blank Statement.sql
    dsimp only
    unfold Statement.selectRoles Statement.roleColumns
    simp only [String.toList_append]
    repeat rw [String.toList_ofList]
    decide +kernel
  | selectAssignment | selectAssignmentOf | selectAssignmentsOf =>
    delta text blank Statement.sql
    dsimp only
    unfold Statement.selectAssignments Statement.roleColumns
    simp only [String.toList_append]
    repeat rw [String.toList_ofList]
    decide +kernel

end Form

def Statement.form : Statement → Form
  | .ping => .ping
  | .selectRole _ => .selectRole
  | .selectRolesIn _ => .selectRolesIn
  | .findRoleName _ _ except => .findRoleName except.isSome
  | .insertRole _ => .insertRole
  | .updateRole .. => .updateRole
  | .deleteRole _ => .deleteRole
  | .selectPermissions _ => .selectPermissions
  | .insertPermissions _ => .insertPermissions
  | .trimPermissions .. => .trimPermissions
  | .selectAssignment _ => .selectAssignment
  | .selectAssignmentOf .. => .selectAssignmentOf
  | .selectAssignmentsOf .. => .selectAssignmentsOf
  | .findAssignment .. => .findAssignment
  | .countAssignments _ => .countAssignments
  | .insertAssignment _ => .insertAssignment
  | .deleteAssignment _ => .deleteAssignment

/-- What a statement is about does not get into its text. -/
theorem Statement.sql_form (statement : Statement) : statement.sql = statement.form.text := by
  cases statement with
  | findRoleName name scope except =>
    cases except with
    | none | some => rfl
  | _ => rfl

end Rbac.Sql
