import Rbac.Http.Message

namespace Rbac.Http.Cors

def correlationHeader : String := "X-Correlation-Id"

/-- The origin that is allowed, and whether it was chosen by the request's own. -/
def allowed (origins : List String) (origin : Option String) : List (String × String) :=
  match origin.filter fun origin => !origin.isEmpty && origins.contains origin with
  | some origin => [("access-control-allow-origin", origin), ("vary", "Origin")]
  | none => (origins.take 1).map fun first => ("access-control-allow-origin", first)

def headers (origins : List String) (request : Incoming) : List (String × String) :=
  allowed origins (request.header? "origin") ++ [
    ("access-control-allow-methods", "GET, POST, PUT, DELETE, OPTIONS"),
    ("access-control-allow-headers", s!"Authorization, Content-Type, {correlationHeader}"),
    ("access-control-expose-headers", s!"Location, {correlationHeader}"),
    ("access-control-max-age", "86400")]

def preflight : Response :=
  .json .ok (.obj [])

end Rbac.Http.Cors
