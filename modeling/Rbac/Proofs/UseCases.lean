import Rbac.Proofs.Syncing
import Rbac.Proofs.Tables
import Rbac.UseCase

namespace Rbac

namespace Transaction

variable {α β : Type} (store : Store) (supply : Supply)

@[simp] theorem run_findRole (id : Uuid) (f : Option Role → Transaction β) :
    (findRole id >>= f).run store supply = (f (store.role? id)).run store supply := rfl

@[simp] theorem run_rolesIn (scope : Scope) (f : List Role → Transaction β) :
    (rolesIn scope >>= f).run store supply = (f (store.rolesIn scope)).run store supply := rfl

@[simp] theorem run_nameTaken (name : Text) (scope : Scope) (except : Option Uuid)
    (f : Bool → Transaction β) :
    (nameTaken name scope except >>= f).run store supply =
      (f (store.nameTaken name scope except)).run store supply := rfl

@[simp] theorem run_keepRole (role : Role) (f : Unit → Transaction β) :
    (keepRole role >>= f).run store supply = (f ()).run (store.putRole role) supply := rfl

@[simp] theorem run_saveRole (role : Role) (f : Unit → Transaction β) :
    (saveRole role >>= f).run store supply = (f ()).run (store.putRole role) supply := rfl

@[simp] theorem run_deleteRole (id : Uuid) (f : Unit → Transaction β) :
    (deleteRole id >>= f).run store supply = (f ()).run (store.eraseRole id) supply := rfl

@[simp] theorem run_findAssignment (id : Uuid) (f : Option Grant → Transaction β) :
    (findAssignment id >>= f).run store supply = (f (store.grant? id)).run store supply := rfl

@[simp] theorem run_grantOf (role user scopeId : Uuid) (f : Option Grant → Transaction β) :
    (grantOf role user scopeId >>= f).run store supply =
      (f (store.grantOf? role user scopeId)).run store supply := rfl

@[simp] theorem run_isAssigned (role user scopeId : Uuid) (f : Bool → Transaction β) :
    (isAssigned role user scopeId >>= f).run store supply =
      (f (store.isAssigned role user scopeId)).run store supply := rfl

@[simp] theorem run_grantsOf (user scopeId : Uuid) (f : List Grant → Transaction β) :
    (grantsOf user scopeId >>= f).run store supply =
      (f (store.grantsOf user scopeId)).run store supply := rfl

@[simp] theorem run_countByRole (role : Uuid) (f : Nat → Transaction β) :
    (countByRole role >>= f).run store supply = (f (store.countByRole role)).run store supply :=
  rfl

@[simp] theorem run_deleteAssignment (id : Uuid) (f : Unit → Transaction β) :
    (deleteAssignment id >>= f).run store supply = (f ()).run (store.eraseAssignment id) supply :=
  rfl

theorem run_request {operation : Operation} {answer : operation.Answer} {after : Store}
    (h : operation.apply store = (.ok answer, after)) :
    (request operation).run store supply = (.ok answer, after, supply) := by
  simp only [request, run, h]

theorem run_insertRole {role : Role} (h : store.nameTaken role.name role.scope none = false)
    (f : Unit → Transaction β) :
    (insertRole role >>= f).run store supply = (f ()).run (store.putRole role) supply := by
  have happly : (Operation.insertRole role).apply store =
      ((.ok () : Except Failure Unit), store.putRole role) :=
    if_neg (by simp [h])
  have hrun : (insertRole role).run store supply = (.ok (), store.putRole role, supply) :=
    run_request store supply happly
  rw [run_bind, hrun]

theorem run_insertAssignment {assignment : Assignment}
    (h : store.isAssigned assignment.role assignment.user assignment.scope.id = false)
    (f : Unit → Transaction β) :
    (insertAssignment assignment >>= f).run store supply =
      (f ()).run (store.putAssignment assignment) supply := by
  have happly : (Operation.insertAssignment assignment).apply store =
      ((.ok () : Except Failure Unit), store.putAssignment assignment) :=
    if_neg (by simp [h])
  have hrun : (insertAssignment assignment).run store supply =
      (.ok (), store.putAssignment assignment, supply) :=
    run_request store supply happly
  rw [run_bind, hrun]

@[simp] theorem run_ofDraw_bind (d : Draw α) (f : α → Transaction β) :
    (ofDraw d >>= f).run store supply = (f (d.run supply).1).run store (d.run supply).2 := by
  rw [run_bind, run_ofDraw]

@[simp] theorem run_ofExcept_bind (result : Except Failure α) (f : α → Transaction β) :
    (ofExcept result >>= f).run store supply =
      match result with
      | .ok value => (f value).run store supply
      | .error failure => (.error failure, store, supply) := by
  cases result with
  | ok value => rfl
  | error failure => rfl

theorem bind_assoc {γ : Type} (t : Transaction α)
    (f : α → Transaction β) (g : β → Transaction γ) :
    (t >>= f) >>= g = t >>= fun value => f value >>= g := by
  change (t.bind f).bind g = t.bind fun value => (f value).bind g
  induction t with
  | done value => rfl
  | fail failure => rfl
  | draw next ih => exact congrArg Transaction.draw (funext ih)
  | ask operation next ih => exact congrArg (Transaction.ask operation) (funext ih)

end Transaction

def CreateRole.bare (command : CreateRole) (id : Uuid) (clock : Clock) : Role :=
  { id, name := command.name, scope := command.scope, createdAt := clock.reading 0,
    description := command.description }

/-- A role renamed by a command, its permissions not yet synced. -/
def UpdateRole.renamed (command : UpdateRole) (role : Role) (clock : Clock) : Role :=
  { role with
    name := command.name, description := command.description,
    updatedAt := some (clock.reading 0) }

def AssignRole.assignment (command : AssignRole) (id : Uuid) (clock : Clock) : Assignment :=
  ⟨id, command.role, command.user, command.scope, clock.reading 0, command.assignedBy⟩

def AssignRole.view (command : AssignRole) (id : Uuid) (role : Role) (clock : Clock) :
    AssignmentView :=
  { id, role := command.role, roleName := role.name, user := command.user, scope := command.scope,
    assignedAt := clock.reading 0, assignedBy := command.assignedBy }

theorem Store.putRole_putRole (store : Store) (role : Role) :
    (store.putRole role).putRole role = store.putRole role := by
  simp [putRole, Table.put_put]

theorem Store.grant_putAssignment (store : Store) (assignment : Assignment) :
    (store.putAssignment assignment).grant? assignment.id = some (store.load assignment) := by
  simp only [grant?, putAssignment, Table.find_put, if_true]
  rfl

namespace UseCase

variable (clock : Clock) (store : Store) (supply : Supply)

theorem grantEach_run {β : Type} (role : Role) (actions : List Text)
    (f : Role → Transaction β) :
    (grantEach role actions clock >>= f).run store supply =
      match (role.addEach clock actions).run supply with
      | ((.error failure, _), later) => (.error failure, store, later)
      | ((.ok (), after), later) => (f after).run store later := by
  rw [Transaction.run_bind, grantEach, Transaction.run_ofDraw_bind]
  rcases (role.addEach clock actions).run supply with ⟨⟨_ | _, after⟩, later⟩
  · rfl
  · rfl

theorem createRole_run (command : CreateRole) :
    (createRole command clock).run store supply =
      if store.nameTaken command.name command.scope none then
        (.error (.nameTaken command.name), store, supply)
      else
        match ((command.bare supply.next clock).addEach (clock.past 2) command.permissions).run
            supply.advance with
        | ((.error failure, _), later) => (.error failure, store, later)
        | ((.ok (), role), later) =>
          (.ok (.ok (.written (.role role.view)
            [⟨clock.reading 1, .roleCreated supply.next command.name command.scope⟩])),
            store.putRole role, later) := by
  rw [createRole, Transaction.run_nameTaken]
  cases hfree : store.nameTaken command.name command.scope none with
  | true => rfl
  | false =>
    have hmade : (Role.create command.name command.description command.scope clock).run supply =
        ((command.bare supply.next clock,
          ⟨clock.reading 1, .roleCreated supply.next command.name command.scope⟩),
            supply.advance) := rfl
    simp only [Bool.false_eq_true, if_false, Transaction.run_ofDraw_bind, hmade]
    rw [grantEach_run]
    rcases hadd : ((command.bare supply.next clock).addEach (clock.past 2) command.permissions).run
      supply.advance with ⟨⟨_ | _, role⟩, later⟩
    · rfl
    · obtain ⟨hrole, _⟩ := Role.addEach_ok hadd
      have hname : store.nameTaken role.name role.scope none = false := by
        rw [hrole]
        exact hfree
      dsimp only
      rw [Transaction.run_insertRole store later hname]
      rfl

theorem updateRole_run (command : UpdateRole) :
    (updateRole command clock).run store supply =
      match store.role? command.id with
      | none => (.error (.roleMissing command.id), store, supply)
      | some role =>
        if store.nameTaken command.name role.scope (some role.id) then
          (.error (.nameTaken command.name), store, supply)
        else if role.isSystem then (.error .systemRoleUpdate, store, supply)
        else
          match ((command.renamed role clock).sync command.permissions (clock.past 2)).run
              supply with
          | ((.error failure, after), later) => (.error failure, store.putRole after, later)
          | ((.ok _, after), later) =>
            (.ok (.ok (.written (.role after.view)
              [⟨clock.reading 1, .roleUpdated role.id command.name⟩])),
              store.putRole after, later) := by
  rw [updateRole, Transaction.run_findRole]
  cases store.role? command.id with
  | none => rfl
  | some role =>
    dsimp only
    rw [Transaction.run_nameTaken]
    split
    · rfl
    · by_cases hs : role.isSystem = true
      · have hupdate : role.update command.name command.description clock =
            .error .systemRoleUpdate := if_pos hs
        rw [hupdate, if_pos hs]
        rfl
      · have hupdate : role.update command.name command.description clock =
            .ok (command.renamed role clock,
              ⟨clock.reading 1, .roleUpdated role.id command.name⟩) := if_neg hs
        rw [hupdate, if_neg hs, Transaction.run_ofExcept_bind]
        simp only [Transaction.run_ofDraw_bind, Transaction.run_keepRole,
          Transaction.run_ofExcept_bind]
        rcases ((command.renamed role clock).sync command.permissions (clock.past 2)).run
          supply with ⟨⟨_ | _, after⟩, later⟩
        · rfl
        · -- The changed role is in the store before it is saved, so saving it adds nothing.
          dsimp only
          rw [Transaction.run_saveRole, Store.putRole_putRole]
          rfl

theorem deleteRole_run (id : Uuid) :
    (deleteRole id clock).run store supply =
      match store.role? id with
      | none => (.error (.roleMissing id), store, supply)
      | some role =>
        if 0 < store.countByRole role.id then (.error .roleInUse, store, supply)
        else if role.isSystem then (.error .systemRoleDelete, store, supply)
        else
          (.ok (.ok (.written .nothing [⟨clock.reading 0, .roleDeleted role.id⟩])),
            store.eraseRole role.id, supply) := by
  rw [deleteRole, Transaction.run_findRole]
  cases store.role? id with
  | none => rfl
  | some role =>
    dsimp only
    rw [Transaction.run_countByRole]
    split
    · rfl
    · rw [Transaction.run_ofExcept_bind, Role.delete]
      by_cases hs : role.isSystem = true
      · rw [if_pos hs, if_pos hs]
      · rw [if_neg hs, if_neg hs]
        dsimp only
        rw [Transaction.run_deleteRole]
        rfl

theorem assignRole_run (command : AssignRole) :
    (assignRole command clock).run store supply =
      match store.role? command.role with
      | none => (.error (.roleMissing command.role), store, supply)
      | some role =>
        if role.scope ≠ command.scope then (.error .scopeMismatch, store, supply)
        else if store.isAssigned command.role command.user command.scope.id then
          (.error .alreadyAssigned, store, supply)
        else
          (.ok (.ok (.written (.assignment (command.view supply.next role clock))
            [⟨clock.reading 1, .assignmentCreated supply.next command.role command.user
              command.scope command.assignedBy⟩])),
            store.putAssignment (command.assignment supply.next clock), supply.advance) := by
  rw [assignRole, Transaction.run_findRole]
  cases hrole : store.role? command.role with
  | none => rfl
  | some role =>
    dsimp only
    split
    · rfl
    · rw [Transaction.run_isAssigned]
      cases hfree : store.isAssigned command.role command.user command.scope.id with
      | true => rfl
      | false =>
        have hmade : (Assignment.create command.role command.user command.scope
            command.assignedBy clock).run supply =
            ((command.assignment supply.next clock, ⟨clock.reading 1, .assignmentCreated supply.next
              command.role command.user command.scope command.assignedBy⟩), supply.advance) := rfl
        simp only [Bool.false_eq_true, if_false, Transaction.run_ofDraw_bind, hmade]
        rw [Transaction.run_insertAssignment (h := hfree), Transaction.run_findAssignment,
          Store.grant_putAssignment]
        simp only [Store.load, AssignRole.assignment, hrole]
        rfl

theorem revokeRole_run (command : RevokeRole) :
    (revokeRole command clock).run store supply =
      match store.grantOf? command.role command.user command.scopeId with
      | none =>
        (.error (.grantMissing command.role command.user command.scopeId), store, supply)
      | some grant =>
        (.ok (.ok (.written .nothing [grant.assignment.revoke (clock.reading 0)])),
          store.eraseAssignment grant.assignment.id, supply) := by
  rw [revokeRole, Transaction.run_grantOf]
  cases store.grantOf? command.role command.user command.scopeId with
  | none => rfl
  | some grant =>
    dsimp only
    rw [Transaction.run_deleteAssignment]
    rfl

theorem getRole_run (id : Uuid) :
    (getRole id).run store supply =
      match store.role? id with
      | none => (.error (.roleMissing id), store, supply)
      | some role => (.ok (.ok (.query (.role role.view))), store, supply) := by
  rw [getRole, Transaction.run_findRole]
  cases store.role? id with
  | none => rfl
  | some role => rfl

theorem listRoles_run (scope : Scope) :
    (listRoles scope).run store supply =
      (.ok (.ok (.query (.roles ((byName (store.rolesIn scope)).map (·.view))))),
        store, supply) := by
  rw [listRoles, Transaction.run_rolesIn]
  rfl

theorem checkPermission_run (query : CheckPermission) :
    (checkPermission query).run store supply =
      (.ok (.ok (.query (.check ⟨allows (store.grantsOf query.user query.scopeId) query.permission,
        query.user, query.scopeId, query.permission⟩))), store, supply) := by
  rw [checkPermission, Transaction.run_grantsOf]
  rfl

theorem userPermissions_run (query : UserPermissions) :
    (userPermissions query).run store supply =
      (.ok (.ok (.query (.actions (actionsOf (store.grantsOf query.user query.scopeId))))),
        store, supply) := by
  rw [userPermissions, Transaction.run_grantsOf]
  rfl

end UseCase
end Rbac
