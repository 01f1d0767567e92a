import Rbac.Text.Blank
import Rbac.Text.Case
import Rbac.Uuid.Basic

namespace Rbac

inductive ScopeType where
  | organization
  | workspace
deriving DecidableEq, Repr

namespace ScopeType

def text : ScopeType → String
  | .organization => "Organization"
  | .workspace => "Workspace"

def all : List ScopeType := [.organization, .workspace]

/-- Reads a spelling in any case, with white space around it. -/
def read? (text : Text) : Option ScopeType := do
  let plain := Text.lower (Text.trim (← text.string?))
  all.find? fun type => Text.lower type.text == plain

end ScopeType

structure Scope where
  type : ScopeType
  id : Uuid
deriving DecidableEq

namespace Scope

def variant (scope : Scope) : String :=
  match scope.type with
  | .organization => "OrganizationScope"
  | .workspace => "WorkspaceScope"

def shown (scope : Scope) : String :=
  s!"{scope.variant}(id={scope.id.shown})"

def countDistinct (scopes : List Scope) : Nat :=
  scopes.eraseDups.length

end Scope
end Rbac
