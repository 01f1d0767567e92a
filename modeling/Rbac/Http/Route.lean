import Rbac.Text.Blank
import Rbac.Uuid.Reader

namespace Rbac.Http

inductive Resource where
  | health
  | readiness
  | roles
  | role (id : Uuid)
  | assignments (role : Uuid)
  | check
  | userPermissions (user : Uuid)
deriving DecidableEq

inductive Method where
  | get
  | post
  | put
  | delete
deriving DecidableEq, Repr

namespace Method

def text : Method → String
  | .get => "GET"
  | .post => "POST"
  | .put => "PUT"
  | .delete => "DELETE"

def known : List String :=
  ["CONNECT", "DELETE", "GET", "HEAD", "OPTIONS", "PATCH", "POST", "PUT", "QUERY", "TRACE",
   "CHECKIN", "CHECKOUT", "COPY", "LOCK", "MKCOL", "MOVE", "PROPFIND", "PROPPATCH", "REPORT",
   "UNCHECKIN", "UNLOCK", "UPDATE", "VERSION-CONTROL"]

end Method

namespace Resource

/-- The methods of a resource, in the order in which they are listed. -/
def methods : Resource → List Method
  | .health | .readiness | .check | .userPermissions _ => [.get]
  | .roles => [.get, .post]
  | .role _ => [.delete, .get, .put]
  | .assignments _ => [.delete, .post]

def methodNames (resource : Resource) : List String :=
  resource.methods.map (·.text)

def method? (resource : Resource) (name : String) : Option Method :=
  resource.methods.find? (·.text == name)

/-- The parts of a path between slashes; slashes in front do not count. -/
def segments (path : String) : List String :=
  (Text.splitOn '/' (path.toList.dropWhile (· == '/'))).map String.ofList

def ofSegments? : List String → Option Resource
  | ["health"] => some .health
  | ["health", "ready"] => some .readiness
  | ["api", "v1", "roles"] => some .roles
  | ["api", "v1", "roles", id] => (Uuid.readLenient? id).map .role
  | ["api", "v1", "roles", id, "assignments"] => (Uuid.readLenient? id).map .assignments
  | ["api", "v1", "permissions", "check"] => some .check
  | ["api", "v1", "users", id, "permissions"] => (Uuid.readLenient? id).map .userPermissions
  | _ => none

def ofPath? (path : String) : Option Resource :=
  ofSegments? (segments path)

def rolesPath : String := "/api/v1/roles"

end Resource
end Rbac.Http
