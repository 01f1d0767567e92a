import Rbac.Http.Message
import Rbac.Http.Problem
import Rbac.Json.Shown
import Rbac.Log

namespace Rbac.Http

/-- What the identity provider says of a token. -/
inductive Introspection where
  /-- The subject is a text as a rule. -/
  | active (subject : Json)
  | inactive
  /-- The provider did not answer, for a reason that its client tells. -/
  | unavailable (reason : Text)

namespace Introspection

/-- Reads the provider's answer: a token is active if the answer says so. A missing subject is
empty. -/
def ofAnswer (answer : Json) : Introspection :=
  if (answer.member? "active").any (·.isTruthy) then
    .active ((answer.member? "sub").getD (.str ""))
  else .inactive

end Introspection

abbrev IdentityProvider := String → Introspection

namespace Identity

def anonymousName : String := "anonymous"

def anonymous : Json := .str anonymousName

def scheme : String := "Bearer "

def unavailableLine (reason : Text) : LogLine :=
  .identity ("Token introspection failed: " ++ reason)

def rejected : Problem := .unauthorized "Bearer token is invalid or expired."

def noBearer : Problem := .unauthorized "Authorization header must use the Bearer scheme."

/-- The user's id of a token, or why it is refused, and what is logged of it. -/
def ofToken (provider : IdentityProvider) (token : String) : Except Problem Json × List LogLine :=
  match provider token with
  | .active subject => (.ok subject, [])
  | .inactive => (.error rejected, [])
  | .unavailable reason => (.error rejected, [unavailableLine reason])

/-- The user's id of a request. Empty credentials count as none. -/
def authenticate (provider : Option IdentityProvider) (request : Incoming) :
    Except Problem Json × List LogLine :=
  let credentials := (request.header? "authorization").getD ""
  match provider with
  | none => (.ok anonymous, [])
  | some provider =>
    if credentials.isEmpty then (.ok anonymous, [])
    else if credentials.startsWith scheme then
      ofToken provider (credentials.drop scheme.length).toString
    else (.error noBearer, [])

def actor (user : Json) : Json :=
  match user with
  | .str name => if name = anonymousName then .null else user
  | _ => user

end Identity
end Rbac.Http
