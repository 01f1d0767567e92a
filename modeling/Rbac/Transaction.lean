import Rbac.Store

namespace Rbac

inductive Operation where
  | findRole (id : Uuid)
  | rolesIn (scope : Scope)
  | nameTaken (name : Text) (scope : Scope) (except : Option Uuid)
  | insertRole (role : Role)
  /-- A loaded role now is as given; nothing is written for it yet. -/
  | keepRole (role : Role)
  | saveRole (role : Role)
  | deleteRole (id : Uuid)
  | findAssignment (id : Uuid)
  | grantOf (role user scopeId : Uuid)
  | isAssigned (role user scopeId : Uuid)
  | grantsOf (user scopeId : Uuid)
  | countByRole (role : Uuid)
  | insertAssignment (assignment : Assignment)
  | deleteAssignment (id : Uuid)

def Operation.Answer : Operation → Type
  | .findRole _ => Option Role
  | .rolesIn _ => List Role
  | .nameTaken .. | .isAssigned .. => Bool
  | .findAssignment _ | .grantOf .. => Option Grant
  | .grantsOf .. => List Grant
  | .countByRole _ => Nat
  | .insertRole _ | .keepRole _ | .saveRole _ | .deleteRole _ | .insertAssignment _
  | .deleteAssignment _ => Unit

/-- The meaning of an operation in memory. Inserting looks for a duplicate first. -/
def Operation.apply : (operation : Operation) → Store → Except Failure operation.Answer × Store
  | .findRole id, store => (.ok (store.role? id), store)
  | .rolesIn scope, store => (.ok (store.rolesIn scope), store)
  | .nameTaken name scope except, store => (.ok (store.nameTaken name scope except), store)
  | .insertRole role, store =>
    if store.nameTaken role.name role.scope none then (.error (.nameTaken role.name), store)
    else (.ok (), store.putRole role)
  | .keepRole role, store => (.ok (), store.putRole role)
  | .saveRole role, store => (.ok (), store.putRole role)
  | .deleteRole id, store => (.ok (), store.eraseRole id)
  | .findAssignment id, store => (.ok (store.grant? id), store)
  | .grantOf role user scopeId, store => (.ok (store.grantOf? role user scopeId), store)
  | .isAssigned role user scopeId, store => (.ok (store.isAssigned role user scopeId), store)
  | .grantsOf user scopeId, store => (.ok (store.grantsOf user scopeId), store)
  | .countByRole role, store => (.ok (store.countByRole role), store)
  | .insertAssignment assignment, store =>
    if store.isAssigned assignment.role assignment.user assignment.scope.id then
      (.error .alreadyAssigned, store)
    else (.ok (), store.putAssignment assignment)
  | .deleteAssignment id, store => (.ok (), store.eraseAssignment id)

inductive Transaction (α : Type) where
  | done (value : α)
  | fail (failure : Failure)
  | draw (next : Uuid → Transaction α)
  | ask (operation : Operation) (next : operation.Answer → Transaction α)

namespace Transaction

variable {α β : Type}

def bind : Transaction α → (α → Transaction β) → Transaction β
  | .done value, f => f value
  | .fail failure, _ => .fail failure
  | .draw next, f => .draw fun id => (next id).bind f
  | .ask operation next, f => .ask operation fun answer => (next answer).bind f

instance : Monad Transaction where
  pure := .done
  bind := bind

def request (operation : Operation) : Transaction operation.Answer :=
  .ask operation .done

def findRole (id : Uuid) : Transaction (Option Role) := request (.findRole id)

def rolesIn (scope : Scope) : Transaction (List Role) := request (.rolesIn scope)

def nameTaken (name : Text) (scope : Scope) (except : Option Uuid) : Transaction Bool :=
  request (.nameTaken name scope except)

def insertRole (role : Role) : Transaction Unit := request (.insertRole role)

def keepRole (role : Role) : Transaction Unit := request (.keepRole role)

def saveRole (role : Role) : Transaction Unit := request (.saveRole role)

def deleteRole (id : Uuid) : Transaction Unit := request (.deleteRole id)

def findAssignment (id : Uuid) : Transaction (Option Grant) := request (.findAssignment id)

def grantOf (role user scopeId : Uuid) : Transaction (Option Grant) :=
  request (.grantOf role user scopeId)

def isAssigned (role user scopeId : Uuid) : Transaction Bool :=
  request (.isAssigned role user scopeId)

def grantsOf (user scopeId : Uuid) : Transaction (List Grant) :=
  request (.grantsOf user scopeId)

def countByRole (role : Uuid) : Transaction Nat := request (.countByRole role)

def insertAssignment (assignment : Assignment) : Transaction Unit :=
  request (.insertAssignment assignment)

def deleteAssignment (id : Uuid) : Transaction Unit := request (.deleteAssignment id)

def ofDraw : Draw α → Transaction α
  | .done value => .done value
  | .draw next => .draw fun id => ofDraw (next id)

def ofExcept : Except Failure α → Transaction α
  | .ok value => .done value
  | .error failure => .fail failure

/-- The meaning of a transaction in memory. Nothing is undone when it fails. -/
def run : Transaction α → Store → Supply → Except Failure α × Store × Supply
  | .done value, store, supply => (.ok value, store, supply)
  | .fail failure, store, supply => (.error failure, store, supply)
  | .draw next, store, supply => (next supply.next).run store supply.advance
  | .ask operation next, store, supply =>
    match operation.apply store with
    | (.ok answer, store) => (next answer).run store supply
    | (.error failure, store) => (.error failure, store, supply)

@[simp] theorem run_pure (value : α) (store : Store) (supply : Supply) :
    (pure value : Transaction α).run store supply = (.ok value, store, supply) := rfl

theorem run_bind (t : Transaction α) (f : α → Transaction β) (store : Store) (supply : Supply) :
    (t >>= f).run store supply =
      match t.run store supply with
      | (.ok value, store, supply) => (f value).run store supply
      | (.error failure, store, supply) => (.error failure, store, supply) := by
  change (t.bind f).run store supply = _
  induction t generalizing store supply with
  | done value => rfl
  | fail failure => rfl
  | draw next ih => exact ih supply.next store supply.advance
  | ask operation next ih =>
    simp only [bind, run]
    split
    · exact ih _ _ _
    · rfl

theorem run_ofDraw (d : Draw α) (store : Store) (supply : Supply) :
    (ofDraw d).run store supply = (.ok (d.run supply).1, store, (d.run supply).2) := by
  induction d generalizing supply with
  | done value => rfl
  | draw next ih => exact ih supply.next supply.advance

end Transaction
end Rbac
