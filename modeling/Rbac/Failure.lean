import Rbac.Text.Quoted
import Rbac.Uuid.Basic

namespace Rbac

/-- The errors a database driver raises, as far as they are told apart. -/
inductive DatabaseError where
  | uniqueViolation
  | foreignKeyViolation
  | operational
  | other (name : String)
deriving DecidableEq, Repr

inductive Failure where
  /-- A refusal of no narrower kind. -/
  | refused (message : Text)
  | notFound (entity key : Text)
  | conflict (message : Text)
  | domain (message : Text)
  /-- Fields of the request break their rules: each field with its messages. -/
  | invalid (errors : List (String × List String))
  | badValue (message : Text)
  | unhandled (request : String)
  | database (error : DatabaseError) (message : Text)
  | invalidUrl (message : Text)
  | wrongType (message : Text)
  /-- A value is of a type that an operation does not belong to. -/
  | noOperation (type operation : String)
deriving DecidableEq, Repr

namespace Failure

def message : Failure → Text
  | .notFound entity key => entity ++ " '" ++ key ++ "' was not found."
  | .invalid _ => "One or more validation errors occurred."
  | .unhandled request => s!"No handler registered for {request}"
  | .noOperation type operation =>
    s!"{Text.quoted type} object has no attribute {Text.quoted operation}"
  | .refused message | .conflict message | .domain message | .badValue message
  | .database _ message | .invalidUrl message | .wrongType message => message

/-- Whether the service itself refused, rather than something it runs on. -/
def isRefusal : Failure → Bool
  | .refused _ | .notFound .. | .conflict _ | .domain _ | .invalid _ => true
  | _ => false

def roleMissing (id : Uuid) : Failure :=
  .notFound "Role" id.text

def assignmentMissing (id : Uuid) : Failure :=
  .notFound "RoleAssignment" id.text

def grantMissing (role user scope : Uuid) : Failure :=
  .notFound "RoleAssignment" s!"RoleId={role}, UserId={user}, ScopeId={scope}"

def nameTaken (name : Text) : Failure :=
  .conflict ("Role with name '" ++ name ++ "' already exists in this scope.")

def alreadyAssigned : Failure :=
  .conflict "Role assignment already exists."

def scopeMismatch : Failure :=
  .domain "Role scope does not match the assignment scope."

def roleInUse : Failure :=
  .domain "Cannot delete role with active assignments."

def systemRoleUpdate : Failure :=
  .domain "Cannot update system roles."

def systemRoleDelete : Failure :=
  .domain "Cannot delete system roles."

def systemRolePermissions : Failure :=
  .domain "Cannot modify permissions of system roles."

def emptyAction : Failure :=
  .domain "Permission action cannot be empty."

def actionPresent (action : Text) : Failure :=
  .domain ("Permission '" ++ action ++ "' already exists in role.")

def actionAbsent (action : Text) : Failure :=
  .domain ("Permission '" ++ action ++ "' not found in role.")

def roleNotLoaded : Failure :=
  .badValue "RoleAssignment loaded without its role"

def unknownScopeType (text : Text) : Failure :=
  .badValue s!"{Text.quoted text} is not a valid ScopeType"

end Failure
end Rbac
