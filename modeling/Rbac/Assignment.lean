import Rbac.Role

namespace Rbac

structure Assignment where
  id : Uuid
  role : Uuid
  user : Uuid
  scope : Scope
  assignedAt : Instant
  assignedBy : Uuid
deriving DecidableEq

namespace Assignment

def create (role user : Uuid) (scope : Scope) (assignedBy : Uuid) (clock : Clock) :
    Draw (Assignment × Event) := do
  let id ← Draw.fresh
  return (⟨id, role, user, scope, clock.reading 0, assignedBy⟩,
    ⟨clock.reading 1, .assignmentCreated id role user scope assignedBy⟩)

/-- The event of taking the role away again; the record itself is deleted right after. -/
def revoke (assignment : Assignment) (now : Instant) : Event :=
  ⟨now, .assignmentRevoked assignment.id assignment.role assignment.user assignment.scope⟩

def isFor (role user scopeId : Uuid) (assignment : Assignment) : Bool :=
  assignment.role == role && assignment.user == user && assignment.scope.id == scopeId

end Assignment

/-- An assignment with the role it refers to. -/
structure Grant where
  assignment : Assignment
  role : Option Role
deriving DecidableEq

end Rbac
