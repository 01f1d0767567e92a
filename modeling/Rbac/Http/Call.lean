import Rbac.Http.Media
import Rbac.Http.Route
import Rbac.Payload
import Rbac.View

namespace Rbac.Http

inductive Call where
  | health
  | readiness
  /-- Which methods a resource takes. -/
  | options (allowed : List String)
  | use (request : Request)

namespace Call

def checked {α : Type} (reading : Checked α) : Except Problem α :=
  match reading with
  | .ok value => .ok value
  | .flawed flaws => .error (.flawed flaws)

def ofBody {α : Type} (read : Json → Checked α) (request : Incoming) : Except Problem α := do
  checked (read (← Media.read request))

def ofQuery {α : Type} (read : Json → Checked α) (request : Incoming) : Except Problem α :=
  checked (read (Form.read request.query))

/-- What a method of a resource asks for; nothing if the resource does not take the method. -/
def ofMethod? (resource : Resource) (method : String) (request : Incoming) :
    Option (Except Problem Call) :=
  (resource.method? method).bind fun method =>
    match resource, method with
    | .health, .get => some (.ok .health)
    | .readiness, .get => some (.ok .readiness)
    | .roles, .get => some ((ofQuery Payload.listRoles request).map (.use ∘ .listRoles))
    | .roles, .post => some ((ofBody Payload.createRole request).map (.use ∘ .createRole))
    | .role id, .get => some (.ok (.use (.getRole id)))
    | .role id, .put => some ((ofBody (Payload.updateRole id) request).map (.use ∘ .updateRole))
    | .role id, .delete => some (.ok (.use (.deleteRole id)))
    | .assignments id, .post =>
      some ((ofBody (Payload.assignRole id) request).map (.use ∘ .assignRole))
    | .assignments id, .delete =>
      some ((ofBody (Payload.revokeRole id) request).map (.use ∘ .revokeRole))
    | .check, .get =>
      some ((ofQuery Payload.checkPermission request).map (.use ∘ .checkPermission))
    | .userPermissions id, .get =>
      some ((ofQuery (Payload.userPermissions id) request).map (.use ∘ .userPermissions))
    | _, _ => none

/-- Every resource answers which methods it takes, so that method is allowed too. -/
def optionsMethod : String := "OPTIONS"

def ofResource (resource : Resource) (request : Incoming) : Except Problem Call :=
  if !Method.known.contains request.method then .error .unknownMethod
  else if request.method = optionsMethod then .ok (.options resource.methodNames)
  else (ofMethod? resource request.method request).getD
    (.error (.noMethod (resource.methodNames ++ [optionsMethod])))

def read (request : Incoming) : Except Problem Call :=
  match Resource.ofPath? request.path with
  | none => .error .noRoute
  | some resource => ofResource resource request

/-- The response to the answer of a use case. A created role is found at its location. -/
def response (request : Request) (answer : Answer) : Response :=
  match request, answer with
  | .createRole _, .role view =>
    (Response.json .created view.toJson).setHeader "location"
      s!"{Resource.rolesPath}/{view.id.text}"
  | .assignRole _, answer => .json .created answer.toJson
  | .deleteRole _, _ | .revokeRole _, _ => .empty .noContent
  | _, answer => .json .ok answer.toJson

def healthy : Response :=
  .json .ok (.obj [("status", .str "ok")])

def ready : Response :=
  .json .ok (.obj [("status", .str "ready"), ("checks", .obj [("database", .str "ok")])])

def notReady : Response :=
  .json .unavailable
    (.obj [("status", .str "unavailable"), ("checks", .obj [("database", .str "failed")])])

def allows (allowed : List String) : Response :=
  { status := .ok, headers := [("content-type", Response.jsonType),
      ("allow", ", ".intercalate allowed)] }

end Call
end Rbac.Http
