import Rbac.Assignment
import Rbac.Table

namespace Rbac

structure Store where
  roles : Table Role (·.id)
  assignments : Table Assignment (·.id)

namespace Store

def empty : Store := ⟨.empty, .empty⟩

instance : Inhabited Store := ⟨empty⟩

/-- A store with the given records, put in order and without any check. -/
def ofLists (roles : List Role) (assignments : List Assignment) : Store :=
  ⟨.ofList roles, .ofList assignments⟩

def role? (store : Store) (id : Uuid) : Option Role :=
  store.roles.find? id

def rolesIn (store : Store) (scope : Scope) : List Role :=
  store.roles.rows.filter fun role => role.scope = scope

def nameTaken (store : Store) (name : Text) (scope : Scope) (except : Option Uuid) : Bool :=
  store.roles.rows.any fun role =>
    decide (role.name = name) && decide (role.scope = scope) && decide (some role.id ≠ except)

def load (store : Store) (assignment : Assignment) : Grant :=
  ⟨assignment, store.role? assignment.role⟩

def grant? (store : Store) (id : Uuid) : Option Grant :=
  (store.assignments.find? id).map store.load

def grantOf? (store : Store) (role user scopeId : Uuid) : Option Grant :=
  (store.assignments.rows.find? (·.isFor role user scopeId)).map store.load

def isAssigned (store : Store) (role user scopeId : Uuid) : Bool :=
  store.assignments.rows.any (·.isFor role user scopeId)

/-- The grants of a user in a scope id, the earlier assigned first; those assigned at one moment
keep their order. -/
def grantsOf (store : Store) (user scopeId : Uuid) : List Grant :=
  let held := store.assignments.rows.filter fun assignment =>
    decide (assignment.user = user) && decide (assignment.scope.id = scopeId)
  (held.mergeSort fun a b => a.assignedAt.le b.assignedAt).map store.load

def countByRole (store : Store) (role : Uuid) : Nat :=
  store.assignments.rows.countP fun assignment => decide (assignment.role = role)

def putRole (store : Store) (role : Role) : Store :=
  { store with roles := store.roles.put role }

def eraseRole (store : Store) (id : Uuid) : Store :=
  { store with roles := store.roles.erase id }

def putAssignment (store : Store) (assignment : Assignment) : Store :=
  { store with assignments := store.assignments.put assignment }

def eraseAssignment (store : Store) (id : Uuid) : Store :=
  { store with assignments := store.assignments.erase id }

end Store
end Rbac
