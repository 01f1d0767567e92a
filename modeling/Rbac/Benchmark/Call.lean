import Rbac.Http.Route
import Rbac.Json.Basic
import Rbac.Text.Base64
import Rbac.Url.Query

namespace Rbac.Benchmark

inductive Body where
  | json (value : Json)
  | text (value : String)

def Body.toJson : Body → Json
  | .json value => value
  | .text value => .str value

structure Call where
  method : String
  url : String
  body : Body
  authorization : Option String := none

/-- The service that is measured, and the ids of the benchmark's organization, of the user whose
permissions are checked, and of the one who assigns the roles. -/
structure Subject where
  base : Url
  authorization : Option String
  organization : Uuid
  user : Uuid
  admin : Uuid

/-- Who asks the identity provider for a token. -/
structure Credentials where
  providerUrl : String
  realm : String
  clientId : String
  clientSecret : String
  username : String
  password : String

namespace Call

def basic (user password : String) : String :=
  "Basic " ++ String.ofList (Text.Base64.encode (Text.Utf8.encode s!"{user}:{password}"))

/-- A call of a URL. A user that the URL names goes before any other authorization. -/
def ofUrl (method : String) (url : Url) (body : Body) (authorization : Option String) : Call where
  method
  url := url.text
  body
  authorization := (url.credentials?.map fun (user, password) => basic user password)
    <|> authorization

def token (credentials : Credentials) : Except Url.Flaw Call := do
  let url ← Url.read (Text.dropTrailing '/' credentials.providerUrl
    ++ s!"/realms/{credentials.realm}/protocol/openid-connect/token")
  let form := Url.Query.text [
    ("grant_type", "password"),
    ("client_id", credentials.clientId),
    ("client_secret", credentials.clientSecret),
    ("username", credentials.username),
    ("password", credentials.password)]
  return ofUrl "POST" (← Url.join {} url) (.text form) none

def action (role permission : Int) : String :=
  s!"bench.p{role}_{permission}"

def missingAction : String := "bench.missing"

def actions (role permissions : Int) : List String :=
  (List.range permissions.toNat).map fun (permission : Nat) => action role permission

def post (subject : Subject) (path : String) (body : Json) : Except Url.Flaw Call := do
  return ofUrl "POST" (← subject.base.join { path }) (.json body) subject.authorization

def role (subject : Subject) (permissions : Int) (number : Nat) : Except Url.Flaw Call :=
  post subject Http.Resource.rolesPath (.obj [
    ("name", .str s!"bench-role-{number}"),
    ("scopeId", .str subject.organization.text),
    ("scopeType", .str "Organization"),
    ("permissions", .ofStrings (actions number permissions))])

def assignment (subject : Subject) (roleId : String) : Except Url.Flaw Call :=
  post subject s!"{Http.Resource.rolesPath}/{roleId}/assignments" (.obj [
    ("userId", .str subject.user.text),
    ("scopeId", .str subject.organization.text),
    ("scopeType", .str "Organization"),
    ("assignedBy", .str subject.admin.text)])

def checkPath : String := "/api/v1/permissions/check"

def check (subject : Subject) (action : String) : Except Url.Flaw Call := do
  let url ← Url.Query.giveTo [
    ("userId", subject.user.text),
    ("scopeId", subject.organization.text),
    ("permission", action)] (← subject.base.join { path := checkPath })
  return ofUrl "GET" url (.text "") subject.authorization

end Call
end Rbac.Benchmark
