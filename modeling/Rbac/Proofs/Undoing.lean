import Rbac.Proofs.Integrity
import Rbac.Proofs.Rules

namespace Rbac

/-- The identifiers that the records mention: their own, and those of the roles they assign. -/
def Store.mentioned (store : Store) : List Uuid :=
  store.ids ++ store.assignments.rows.map (·.role)

namespace UseCase

variable {store : Store} (supply : Supply) (clock : Clock)

theorem revokeRole_newest (assignment : Assignment) (hnew : assignment.id ∉ store.ids)
    (hfree : store.isAssigned assignment.role assignment.user assignment.scope.id = false) :
    (revokeRole ⟨assignment.role, assignment.user, assignment.scope.id⟩ clock).run
        (store.putAssignment assignment) supply =
      (.ok (.ok (.written .nothing [assignment.revoke (clock.reading 0)])), store, supply) := by
  have hothers : store.assignments.rows.find?
      (·.isFor assignment.role assignment.user assignment.scope.id) = none := by
    simpa [Store.isAssigned] using hfree
  have hfound : (store.putAssignment assignment).assignments.rows.find?
      (·.isFor assignment.role assignment.user assignment.scope.id) = some assignment := by
    rw [Store.rows_putAssignment hnew, List.find?_append, hothers]
    simp [Assignment.isFor]
  have hgone : (store.putAssignment assignment).eraseAssignment assignment.id = store := by
    have herased : (store.assignments.put assignment).erase assignment.id = store.assignments :=
      Table.erase_put fun other ho he => hnew (he ▸ Store.assignment_id_mem ho)
    rw [Store.putAssignment, Store.eraseAssignment, herased]
  rw [revokeRole_run]
  simp only [Store.grantOf?, hfound, Option.map_some, Store.load, hgone]

theorem deleteRole_newest (role : Role) (hnew : role.id ∉ store.mentioned)
    (hopen : role.isSystem = false) :
    (deleteRole role.id clock).run (store.putRole role) supply =
      (.ok (.ok (.written .nothing [⟨clock.reading 0, .roleDeleted role.id⟩])), store, supply) := by
  have hfound : (store.putRole role).role? role.id = some role :=
    (Table.find_put _ _ _).trans (if_pos rfl)
  have hunheld : (store.putRole role).countByRole role.id = 0 := by
    apply List.countP_eq_zero.mpr
    intro assignment ha he
    exact hnew (List.mem_append_right _ (List.mem_map.mpr ⟨assignment, ha, by simpa using he⟩))
  have hgone : (store.putRole role).eraseRole role.id = store := by
    have herased : (store.roles.put role).erase role.id = store.roles :=
      Table.erase_put fun other ho he =>
        hnew (List.mem_append_left _ (he ▸ Store.role_id_mem ho))
    rw [Store.putRole, Store.eraseRole, herased]
  rw [deleteRole_run, hfound]
  simp only [hunheld, Nat.lt_irrefl, if_false, hopen, Bool.false_eq_true, hgone]

end UseCase

/-- Where the identifiers that a write draws are mentioned nowhere in the records: a role that is
assigned can be revoked right after, and one that is created can be deleted, and then the records
are what they were, in content and order. What is revoked is what was assigned. -/
theorem undone_without_trace (pattern : Pattern) (world : World) (clock later : Clock) :
    (∀ (command : AssignRole) (outcome : Outcome Answer),
      let made := World.step pattern ⟨.assignRole command, clock, false⟩ world
      let undone := World.step pattern
        ⟨.revokeRole ⟨command.role, command.user, command.scope.id⟩, later, false⟩ made.2
      (∀ id ∈ world.supply.drawnUntil made.2.supply, id ∉ world.store.mentioned) →
      made.1 = .ok outcome →
        ∃ view id,
          outcome =
            .written (.assignment view) [⟨clock.reading 1, .assignmentCreated id command.role
            command.user command.scope command.assignedBy⟩] ∧
          made.2.store.assignments.rows =
            world.store.assignments.rows ++ [command.assignment id clock] ∧
          undone.1 = .ok (.written .nothing
            [⟨later.reading 0, .assignmentRevoked id command.role command.user command.scope⟩]) ∧
          undone.2.store = world.store) ∧
    ∀ (command : CreateRole) (outcome : Outcome Answer),
      let made := World.step pattern ⟨.createRole command, clock, false⟩ world
      (∀ id ∈ world.supply.drawnUntil made.2.supply, id ∉ world.store.mentioned) →
      made.1 = .ok outcome →
        ∃ view : RoleView,
          let undone := World.step pattern ⟨.deleteRole view.id, later, false⟩ made.2
          outcome = .written (.role view)
            [⟨clock.reading 1, .roleCreated view.id command.name command.scope⟩] ∧
          undone.1 = .ok (.written .nothing [⟨later.reading 0, .roleDeleted view.id⟩]) ∧
          undone.2.store = world.store := by
  refine ⟨?_, ?_⟩
  · intro command outcome made undone hnew hmade
    obtain ⟨hvalid, after, rest, hstore, hsupply, heffect⟩ := World.step_succeeded hmade
    rw [hsupply] at hnew
    cases heffect with
    | answered _ hasks => cases hasks
    | assigned _ _ hfree =>
      have habsent : world.supply.next ∉ world.store.ids := fun hin =>
        hnew _ (Supply.next_mem_drawnUntil (.refl _)) (List.mem_append_left _ hin)
      obtain ⟨hrole, huser, hscope, _⟩ := Validation.breaches_nil_iff.mp hvalid
      have hrevocable : Validation.breaches pattern
          (.revokeRole ⟨command.role, command.user, command.scope.id⟩) = [] :=
        Validation.breaches_nil_iff.mpr ⟨hrole, huser, hscope⟩
      have hrun := UseCase.revokeRole_newest made.2.supply later
        (command.assignment world.supply.next clock) habsent hfree
      rw [← hstore] at hrun
      have hrows : made.2.store.assignments.rows =
          world.store.assignments.rows ++ [command.assignment world.supply.next clock] := by
        rw [hstore]
        exact Store.rows_putAssignment habsent
      exact ⟨_, _, rfl, hrows, World.step_done hrevocable hrun⟩
  · intro command outcome made hnew hmade
    obtain ⟨_, after, rest, hstore, hsupply, heffect⟩ := World.step_succeeded hmade
    rw [hsupply] at hnew
    cases heffect with
    | answered _ hasks => cases hasks
    | created _ hadd =>
      obtain ⟨rfl, rfl⟩ := Effect.created_role hadd
      have hdrawn := Supply.next_mem_drawnUntil
        (world.supply.advance.reaches_skip command.permissions.length)
      have hrun := UseCase.deleteRole_newest made.2.supply later
        ((command.bare world.supply.next clock).extend (Permission.series world.supply.next
          (clock.past 2) world.supply.advance command.permissions)) (hnew _ hdrawn) rfl
      rw [← hstore] at hrun
      have hvalid : Validation.breaches pattern (.deleteRole world.supply.next) = [] := rfl
      exact ⟨_, rfl, World.step_done hvalid hrun⟩

theorem reader_undone_without_trace :
    let pattern := Pattern.star false (.one .dot)
    let org : Scope := ⟨.organization, Uuid.ofNat 7⟩
    let assigned := World.step pattern
      ⟨.assignRole ⟨Uuid.ofNat 1, Uuid.ofNat 6, org, Uuid.ofNat 5⟩, .epoch, false⟩ heldReader
    let revoked := World.step pattern
      ⟨.revokeRole ⟨Uuid.ofNat 1, Uuid.ofNat 6, Uuid.ofNat 7⟩, .epoch, false⟩ assigned.2
    let created := World.step pattern
      ⟨.createRole ⟨"writer", org, none, ["doc:write", "doc:share"]⟩, .epoch, false⟩ heldReader
    (∀ id ∈ heldReader.supply.drawnUntil assigned.2.supply, id ∉ heldReader.store.mentioned) ∧
      (∀ id ∈ heldReader.supply.drawnUntil created.2.supply, id ∉ heldReader.store.mentioned) ∧
      (∃ outcome, assigned.1 = .ok outcome) ∧ revoked.2.store = heldReader.store ∧
      ∃ view events, created.1 = .ok (.written (.role view) events) ∧
        (World.step pattern ⟨.deleteRole view.id, .epoch, false⟩ created.2).2.store =
          heldReader.store := by
  intro pattern org assigned revoked created
  have hnew : ∀ id ∈ heldReader.supply.drawnUntil assigned.2.supply,
      id ∉ heldReader.store.mentioned := by decide +kernel
  have hcreatedNew : ∀ id ∈ heldReader.supply.drawnUntil created.2.supply,
      id ∉ heldReader.store.mentioned := by decide +kernel
  obtain ⟨granted, hassigned⟩ : ∃ outcome, assigned.1 = .ok outcome := ⟨_, rfl⟩
  have hends : created.1.isOk = true := by decide +kernel
  obtain ⟨made, hcreated⟩ : ∃ outcome, created.1 = .ok outcome := by
    cases hresult : created.1 with
    | ok outcome => exact ⟨outcome, rfl⟩
    | error failure =>
      rw [hresult] at hends
      cases hends
  obtain ⟨hassign, hcreate⟩ := undone_without_trace pattern heldReader .epoch .epoch
  obtain ⟨_, _, _, _, _, hrevoked⟩ := hassign _ granted hnew hassigned
  obtain ⟨view, hmade, _, hdeleted⟩ := hcreate _ made hcreatedNew hcreated
  refine ⟨hnew, hcreatedNew, ⟨granted, hassigned⟩, hrevoked, view, _,
    hcreated.trans (congrArg Except.ok hmade), ?_⟩
  dsimp only [created]
  exact hdeleted

end Rbac
