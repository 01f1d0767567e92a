import Rbac.Proofs.Database.Agreeing

namespace Rbac

namespace Sql

variable {engine : Engine} {pattern : Pattern} {tables : Tables} {store : Store}
  {supply : Supply} {clocks : List Clock} {clock : Clock}

theorem createRole_fits {command : CreateRole}
    (h : Validation.breaches pattern (.createRole command) = []) :
    RoleFits command.name command.description ∧
      ∀ action ∈ command.permissions, action.length ≤ Validation.permissionLimit := by
  obtain ⟨hname, hdescription, _, hactions⟩ := Validation.breaches_nil_iff.mp h
  exact ⟨⟨hname.2, hdescription⟩, fun action ha => (hactions action ha).short⟩

theorem updateRole_fits {command : UpdateRole}
    (h : Validation.breaches pattern (.updateRole command) = []) :
    RoleFits command.name command.description ∧
      ∀ action ∈ command.permissions, action.length ≤ Validation.permissionLimit := by
  obtain ⟨_, hname, hdescription, hactions⟩ := Validation.breaches_nil_iff.mp h
  exact ⟨⟨hname.2, hdescription⟩, fun action ha => (hactions action ha).short⟩

theorem createRole_agrees (h : Mirrors tables store) (hkept : Orderly clocks store)
    {command : CreateRole} (hvalid : Validation.breaches pattern (.createRole command) = [])
    (hfresh : Fresh (supply.drawnUntil ((UseCase.createRole command clock).run store supply).2.2)
      store.ids) :
    Agrees engine (UseCase.createRole command clock) store tables supply := by
  obtain ⟨hfits, hshort⟩ := createRole_fits hvalid
  rw [UseCase.createRole_run] at hfresh
  apply Agrees.nameTaken h
  cases hfree : store.nameTaken command.name command.scope none with
  | true => exact .fail _
  | false =>
    simp only [hfree, Bool.false_eq_true, if_false] at hfresh ⊢
    apply Agrees.ofDraw
    apply Agrees.grantEach
    intro role later hadd
    have hadded : ((command.bare supply.next clock).addEach (clock.past 2) command.permissions).run
        supply.advance = ((.ok (), role), later) := hadd
    simp only [hadded] at hfresh
    obtain ⟨hrole, hlater⟩ := Effect.created_role hadded
    have hreach : supply.advance.Reaches later := hlater ▸ supply.advance.reaches_skip _
    have hnamed : store.nameTaken role.name role.scope none = false := by
      rw [hrole]
      exact hfree
    have hwritable : Writable role := by
      refine ⟨?_, ?_, RoleIntegrity.created_tidy hadded hfresh⟩
      · rw [hrole]
        exact hfits
      · intro permission hp
        apply hshort
        have hactions : role.actions = command.permissions := by
          rw [hrole, Role.actions_extend, Permission.series_actions]
          rfl
        rw [← hactions]
        exact List.mem_map_of_mem hp
    have hid : role.id ∉ store.ids := by
      rw [hrole]
      exact hfresh.absent _ (Supply.next_mem_drawnUntil hreach)
    have hids : ∀ permission ∈ role.permissions, permission.id ∉ store.ids := by
      intro permission hp
      rw [hrole] at hp
      apply hfresh.absent
      rw [hlater] at hreach ⊢
      exact Supply.drawnUntil_second supply.reaches_advance hreach _ (Permission.of_mem_series hp).1
    obtain ⟨after, hperform, hmirrors⟩ :=
      h.perform_insertRole hkept.roles hwritable hnamed hid hids engine later
    have happly : (Operation.insertRole role).apply store =
        ((.ok () : Except Failure Unit), store.putRole role) := if_neg (by simp [hnamed])
    exact Agrees.request happly hperform (.done hmirrors _)

theorem synced_permissions {command : UpdateRole} {old role : Role} {later : Supply}
    {changes : List Text × List Text} (hs : old.isSystem = false)
    (hsync : ((command.renamed old clock).sync command.permissions (clock.past 2)).run supply =
      ((.ok changes, role), later)) :
    ∃ new, role.permissions =
        old.permissions.filter (fun permission => permission.action ∈ role.actions) ++ new ∧
      ∀ permission ∈ new, permission.id ∈ supply.drawnUntil later := by
  obtain ⟨new, hrole, hnew⟩ := Effect.synced_role hs hsync
  refine ⟨new, ?_, fun permission hp => (hnew permission hp).1⟩
  have hkept : old.permissions.filter (fun permission => permission.action ∈ role.actions) =
      old.permissions.filter
        fun permission => (Role.wanted command.permissions).contains permission.action := by
    apply List.filter_congr
    intro permission _
    rw [Bool.eq_iff_iff]
    simp [Effect.synced_actions hs hsync, Role.wanted, List.mem_eraseDups]
  rw [hkept, hrole]
  rfl

theorem saveSynced_agrees (h : Mirrors tables store) (hkept : Orderly clocks store)
    {command : UpdateRole} {old role : Role} {changes : List Text × List Text} {later : Supply}
    (hvalid : Validation.breaches pattern (.updateRole command) = [])
    (hfound : store.role? command.id = some old)
    (hfree : store.nameTaken command.name old.scope (some old.id) = false)
    (hs : old.isSystem = false)
    (hsync : ((command.renamed old clock).sync command.permissions (clock.past 2)).run supply =
      ((.ok changes, role), later))
    (hfresh : Fresh (supply.drawnUntil later) store.ids)
    {answer : Except Failure (Outcome Answer)} :
    Agrees engine (do
      Transaction.keepRole role
      let _ ← Transaction.ofExcept (.ok changes)
      Transaction.saveRole role
      return answer) store tables later := by
  obtain ⟨hfits, hshort⟩ := updateRole_fits hvalid
  obtain ⟨hold, _⟩ := Table.find_iff.mp hfound
  obtain ⟨_, hrole, _⟩ := Effect.synced_role hs hsync
  obtain ⟨new, hpermissions, hnew⟩ := synced_permissions hs hsync
  have hsame : RoleRow.ofRole role =
      (RoleRow.ofRole old).revise role.name role.description role.updatedAt := by
    rw [hrole]
    rfl
  have hwritable : Writable role := by
    refine ⟨?_, ?_, hkept.roles.synced_tidy hfound hs hsync hfresh⟩
    · rw [hrole]
      exact hfits
    · intro permission hp
      exact hshort _ ((Effect.synced_actions hs hsync).mp (List.mem_map_of_mem hp))
  have hnamed : store.nameTaken role.name role.scope (some role.id) = false := by
    rw [hrole]
    exact hfree
  obtain ⟨after, hperform, hmirrors⟩ := h.perform_saveRole hkept.roles hold hsame hpermissions
    hwritable hnamed (fun permission hp => hfresh.absent _ (hnew permission hp)) engine later
  -- In memory the role is in place before it is saved; the tables get it all at once.
  have happly : (Operation.saveRole role).apply (store.putRole role) =
      ((.ok () : Except Failure Unit), store.putRole role) :=
    congrArg (Prod.mk _) (store.putRole_putRole role)
  have hkeep : (Operation.keepRole role).apply store =
      ((.ok () : Except Failure Unit), store.putRole role) := rfl
  exact Agrees.request hkeep rfl (Agrees.request happly hperform (.done hmirrors _))

theorem updateRole_agrees (h : Mirrors tables store) (hkept : Orderly clocks store)
    {command : UpdateRole} (hvalid : Validation.breaches pattern (.updateRole command) = [])
    (hfresh : Fresh (supply.drawnUntil ((UseCase.updateRole command clock).run store supply).2.2)
      store.ids) :
    Agrees engine (UseCase.updateRole command clock) store tables supply := by
  rw [UseCase.updateRole_run] at hfresh
  apply Agrees.findRole h hkept
  cases hfound : store.role? command.id with
  | none => exact .fail _
  | some old =>
    dsimp only
    apply Agrees.nameTaken h
    cases hfree : store.nameTaken command.name old.scope (some old.id) with
    | true => exact .fail _
    | false =>
      simp only [hfound, hfree, Bool.false_eq_true, if_false] at hfresh ⊢
      apply Agrees.ofExcept
      intro (renamed, updated) hupdate
      cases hs : old.isSystem with
      | true => simp [Role.update, hs] at hupdate
      | false =>
        obtain ⟨rfl, rfl⟩ : command.renamed old clock = renamed ∧
            ⟨clock.reading 1, .roleUpdated old.id command.name⟩ = updated := by
          simpa [Role.update, hs, UpdateRole.renamed] using hupdate
        apply Agrees.ofDraw
        have hsync := Role.sync_succeeds (clock.past 2) supply
          (show (command.renamed old clock).isSystem = false from hs)
          (Validation.updateRole_blank hvalid)
        simp only [hs, Bool.false_eq_true, if_false, hsync] at hfresh ⊢
        exact saveSynced_agrees h hkept hvalid hfound hfree hs hsync hfresh

theorem deleteRole_agrees (h : Mirrors tables store) (hkept : Orderly clocks store) (id : Uuid) :
    Agrees engine (UseCase.deleteRole id clock) store tables supply := by
  apply Agrees.findRole h hkept
  cases hfound : store.role? id with
  | none => exact .fail _
  | some role =>
    dsimp only
    apply Agrees.countByRole h
    by_cases hheld : 0 < store.countByRole role.id
    · rw [if_pos hheld]
      exact .fail _
    · rw [if_neg hheld]
      apply Agrees.ofExcept
      intro deleted _
      have happly : (Operation.deleteRole role.id).apply store =
          ((.ok () : Except Failure Unit), store.eraseRole role.id) := rfl
      have hdeleted := h.deleteRole_ok (Nat.eq_zero_of_not_pos hheld)
      exact Agrees.request happly (Session.perform_execute hdeleted)
        (.done (h.erase_role hkept.roles _) _)

theorem Orderly.put_assignment (h : Orderly clocks store) {assignment : Assignment} {role : Role}
    (hfound : store.role? assignment.role = some role) (hscope : role.scope = assignment.scope)
    (hfree : store.isAssigned assignment.role assignment.user assignment.scope.id = false)
    (hnew : ∀ other ∈ store.assignments.rows, other.id ≠ assignment.id) {n : Nat}
    (hmoment : assignment.assignedAt = clock.reading n)
    (hpast : ∀ earlier ∈ clocks, earlier.Before clock) :
    Orderly (clocks ++ [clock]) (store.putAssignment assignment) :=
  ⟨h.integrity.put_assignment hfound hscope hfree, ⟨h.roles.names, h.roles.tidy⟩,
    h.chronological.put_assignment hnew hmoment hpast⟩

theorem insertAssignment_agrees (h : Mirrors tables store) (hkept : Orderly clocks store)
    {assignment : Assignment} {role : Role} (hfound : store.role? assignment.role = some role)
    (hscope : role.scope = assignment.scope)
    (hfree : store.isAssigned assignment.role assignment.user assignment.scope.id = false)
    (hid : assignment.id ∉ store.ids) {n : Nat}
    (hmoment : assignment.assignedAt = clock.reading n)
    (hpast : ∀ earlier ∈ clocks, earlier.Before clock) {f : Option Grant → UseCase}
    (hrest : ∀ after, Mirrors after (store.putAssignment assignment) →
      Agrees engine (f (some (store.load assignment))) (store.putAssignment assignment) after
        supply) :
    Agrees engine (do
      Transaction.insertAssignment assignment
      f (← Transaction.findAssignment assignment.id)) store tables supply := by
  have hnew : ∀ other ∈ store.assignments.rows, other.id ≠ assignment.id :=
    fun other ho he => hid (he ▸ Store.assignment_id_mem ho)
  have happly : (Operation.insertAssignment assignment).apply store =
      ((.ok () : Except Failure Unit), store.putAssignment assignment) := if_neg (by simp [hfree])
  have hinserted := h.insertAssignment_ok ⟨role, Table.find_iff.mp hfound⟩ hnew hfree
  have hmirrors := h.put_assignment hnew
  refine Agrees.request happly (Session.perform_executeUnique hinserted _) ?_
  apply Agrees.findAssignment hmirrors (hkept.put_assignment hfound hscope hfree hnew
    hmoment hpast)
  rw [Store.grant_putAssignment]
  exact hrest _ hmirrors

theorem assignRole_agrees (h : Mirrors tables store) (hkept : Orderly clocks store)
    {command : AssignRole} (hpast : ∀ earlier ∈ clocks, earlier.Before clock)
    (hfresh : Fresh (supply.drawnUntil ((UseCase.assignRole command clock).run store supply).2.2)
      store.ids) :
    Agrees engine (UseCase.assignRole command clock) store tables supply := by
  rw [UseCase.assignRole_run] at hfresh
  apply Agrees.findRole h hkept
  cases hfound : store.role? command.role with
  | none => exact .fail _
  | some role =>
    dsimp only
    by_cases hscope : role.scope = command.scope
    · rw [if_neg (not_not_intro hscope)]
      apply Agrees.isAssigned h
      cases hfree : store.isAssigned command.role command.user command.scope.id with
      | true => exact .fail _
      | false =>
        simp only [hfound, if_neg (not_not_intro hscope), hfree, Bool.false_eq_true, if_false]
          at hfresh ⊢
        apply Agrees.ofDraw
        have hid : (command.assignment supply.next clock).id ∉ store.ids :=
          hfresh.absent _ (Supply.next_mem_drawnUntil (.refl _))
        apply insertAssignment_agrees h hkept hfound hscope hfree hid rfl hpast
        intro after hmirrors
        exact .done hmirrors _
    · rw [if_pos hscope]
      exact .fail _

theorem revokeRole_agrees (h : Mirrors tables store) (hkept : Orderly clocks store)
    (command : RevokeRole) :
    Agrees engine (UseCase.revokeRole command clock) store tables supply := by
  apply Agrees.grantOf h hkept
  cases store.grantOf? command.role command.user command.scopeId with
  | none => exact .fail _
  | some grant =>
    have happly : (Operation.deleteAssignment grant.assignment.id).apply store =
        ((.ok () : Except Failure Unit), store.eraseAssignment grant.assignment.id) := rfl
    exact Agrees.request happly (Session.perform_execute rfl) (.done (h.erase_assignment _) _)

theorem getRole_agrees (h : Mirrors tables store) (hkept : Orderly clocks store) (id : Uuid) :
    Agrees engine (UseCase.getRole id) store tables supply := by
  apply Agrees.findRole h hkept
  cases store.role? id with
  | none => exact .fail _
  | some role => exact .done h _

/-- The roles of a scope have names of their own, so in whatever order they are loaded they have one
order by name. -/
theorem byName_perm (h : RoleIntegrity store) {scope : Scope} {roles : List Role}
    (hperm : roles.Perm (store.rolesIn scope)) :
    UseCase.byName roles = UseCase.byName (store.rolesIn scope) := by
  have hloaded : (UseCase.byName roles).Perm (store.rolesIn scope) :=
    (List.mergeSort_perm _ _).trans hperm
  have hlisted : (UseCase.byName (store.rolesIn scope)).Perm (store.rolesIn scope) :=
    List.mergeSort_perm _ _
  have hin : ∀ role ∈ store.rolesIn scope, role ∈ store.roles.rows ∧ role.scope = scope := by
    simp [Store.rolesIn]
  apply (hloaded.trans hlisted.symm).eq_of_pairwise _ (UseCase.byName_sorted _)
    (UseCase.byName_sorted _)
  intro a b ha hb hle hge
  obtain ⟨hstored, hscope⟩ := hin a (hloaded.mem_iff.mp ha)
  obtain ⟨hother, hsame⟩ := hin b (hlisted.mem_iff.mp hb)
  exact h.names a hstored b hother (Text.eq_of_not_before hge hle) (hscope.trans hsame.symm)

theorem listRoles_agrees (h : Mirrors tables store) (hkept : Orderly clocks store)
    (scope : Scope) : Agrees engine (UseCase.listRoles scope) store tables supply := by
  obtain ⟨roles, hperform, hperm⟩ :=
    h.perform_rolesIn hkept engine supply scope
  have hperformed : (ofTransaction (UseCase.listRoles scope)).perform engine tables supply =
      (.ok (.ok (.query (.roles ((UseCase.byName roles).map (·.view))))), tables, supply) :=
    Session.perform_bind _ hperform
  refine ⟨?_, ?_, ?_⟩
  · rw [hperformed, UseCase.listRoles_run, byName_perm hkept.roles hperm]
  · rw [hperformed, UseCase.listRoles_run]
  · intro _ _
    rw [hperformed, UseCase.listRoles_run]
    exact h

theorem checkPermission_agrees (h : Mirrors tables store) (hkept : Orderly clocks store)
    (query : CheckPermission) :
    Agrees engine (UseCase.checkPermission query) store tables supply := by
  apply Agrees.grantsOf h hkept
  exact .done h _

theorem userPermissions_agrees (h : Mirrors tables store) (hkept : Orderly clocks store)
    (query : UserPermissions) :
    Agrees engine (UseCase.userPermissions query) store tables supply := by
  apply Agrees.grantsOf h hkept
  exact .done h _

/-- The use case of every request that keeps its rules ends alike on both sides. -/
theorem useCase_agrees (h : Mirrors tables store) (hkept : Orderly clocks store)
    {request : Request} (hvalid : Validation.breaches pattern request = [])
    (hpast : ∀ earlier ∈ clocks, earlier.Before clock)
    (hfresh : Fresh (supply.drawnUntil ((request.useCase clock).run store supply).2.2) store.ids) :
    Agrees engine (request.useCase clock) store tables supply := by
  cases request with
  | createRole command => exact createRole_agrees h hkept hvalid hfresh
  | updateRole command => exact updateRole_agrees h hkept hvalid hfresh
  | deleteRole id => exact deleteRole_agrees h hkept id
  | assignRole command => exact assignRole_agrees h hkept hpast hfresh
  | revokeRole command => exact revokeRole_agrees h hkept command
  | getRole id => exact getRole_agrees h hkept id
  | listRoles scope => exact listRoles_agrees h hkept scope
  | checkPermission query => exact checkPermission_agrees h hkept query
  | userPermissions query => exact userPermissions_agrees h hkept query

end Sql
end Rbac
