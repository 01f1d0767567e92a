import Rbac.Failure
import Rbac.Json.Shown
import Rbac.Uuid.Reader

namespace Rbac

/-- The id that a text denotes. One that is no string denotes none. -/
def Uuid.ofText? (text : Text) : Option Uuid :=
  text.string?.bind readLenient?

structure Context where
  correlation : Option String := none
  /-- Who acts, as the identity provider tells it: a text as a rule. -/
  actor : Json := .null

namespace Context

/-- Who acts, if the actor denotes an id. An empty actor counts as none; one that is no text cannot
be read. -/
def actorId? (context : Context) : Except Failure (Option Uuid) :=
  if !context.actor.isTruthy then .ok none
  else match context.actor with
    | .str text => .ok (Uuid.ofText? text)
    | actor => .error (.noOperation actor.kind "replace")

end Context
end Rbac
