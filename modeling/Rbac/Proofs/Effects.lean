import Rbac.Proofs.UseCases
import Rbac.Service

namespace Rbac

def Request.asks : Request → Bool
  | .getRole _ | .listRoles _ | .checkPermission _ | .userPermissions _ => true
  | _ => false

/-- When the event of a write is told to have happened: what is removed is told of at once, what is
made or changed after its own moment has been read. -/
def Request.toldAt (clock : Clock) : Request → Instant
  | .deleteRole _ | .revokeRole _ => clock.reading 0
  | _ => clock.reading 1

/-- A failure by which a use case says no: something is missing, taken or not allowed. -/
def Failure.isDenial : Failure → Bool
  | .notFound .. | .conflict _ | .domain _ => true
  | _ => false

/-- The ways in which a request that runs under a clock can end, with what it answers, the records
it leaves and the supply it leaves. -/
inductive Effect (clock : Clock) (store : Store) (supply : Supply) :
    Request → Except Failure (Outcome Answer) → Store → Supply → Prop where
  | refused {request : Request} {failure : Failure} {later : Supply}
      (denial : failure.isDenial = true) (reaches : supply.Reaches later) :
      Effect clock store supply request (.error failure) store later
  | answered {request : Request} (answer : Answer) (asks : request.asks = true) :
      Effect clock store supply request (.ok (.query answer)) store supply
  | created {command : CreateRole} {role : Role} {later : Supply}
      (free : store.nameTaken command.name command.scope none = false)
      (added : ((command.bare supply.next clock).addEach (clock.past 2) command.permissions).run
        supply.advance = ((.ok (), role), later)) :
      Effect clock store supply (.createRole command)
        (.ok (.written (.role role.view)
          [⟨clock.reading 1, .roleCreated role.id role.name role.scope⟩]))
        (store.putRole role) later
  | updated {command : UpdateRole} {old role : Role} {later : Supply}
      {changes : List Text × List Text}
      (found : store.role? command.id = some old)
      (free : store.nameTaken command.name old.scope (some old.id) = false)
      (changeable : old.isSystem = false)
      (synced : ((command.renamed old clock).sync command.permissions (clock.past 2)).run supply =
        ((.ok changes, role), later)) :
      Effect clock store supply (.updateRole command)
        (.ok (.written (.role role.view) [⟨clock.reading 1, .roleUpdated role.id role.name⟩]))
        (store.putRole role) later
  /-- The role keeps what was done to it before the refusal. -/
  | halfUpdated {command : UpdateRole} {old role : Role} {later : Supply} {failure : Failure}
      (found : store.role? command.id = some old)
      (free : store.nameTaken command.name old.scope (some old.id) = false)
      (changeable : old.isSystem = false)
      (stopped : ((command.renamed old clock).sync command.permissions (clock.past 2)).run supply =
        ((.error failure, role), later)) :
      Effect clock store supply (.updateRole command) (.error failure) (store.putRole role) later
  | deleted {role : Role}
      (found : store.role? role.id = some role) (unheld : store.countByRole role.id = 0)
      (changeable : role.isSystem = false) :
      Effect clock store supply (.deleteRole role.id)
        (.ok (.written .nothing [⟨clock.reading 0, .roleDeleted role.id⟩]))
        (store.eraseRole role.id) supply
  | assigned {command : AssignRole} {role : Role}
      (found : store.role? command.role = some role) (scope : role.scope = command.scope)
      (free : store.isAssigned command.role command.user command.scope.id = false) :
      Effect clock store supply (.assignRole command)
        (.ok (.written (.assignment (command.view supply.next role clock))
          [⟨clock.reading 1, .assignmentCreated supply.next command.role command.user command.scope
            command.assignedBy⟩]))
        (store.putAssignment (command.assignment supply.next clock)) supply.advance
  | revoked {command : RevokeRole} {assignment : Assignment}
      (found : store.assignments.rows.find?
        (·.isFor command.role command.user command.scopeId) = some assignment) :
      Effect clock store supply (.revokeRole command)
        (.ok (.written .nothing [assignment.revoke (clock.reading 0)]))
        (store.eraseAssignment assignment.id) supply

namespace UseCase

variable (clock : Clock) (store : Store) (supply : Supply)

/-- A use case of which an effect is known: its answer never fails once it is committed. -/
def HasEffect (request : Request) : Prop :=
  ∃ result after later,
    (request.useCase clock).run store supply = (result.map Except.ok, after, later) ∧
      Effect clock store supply request result after later

theorem createRole_effect (command : CreateRole) :
    HasEffect clock store supply (.createRole command) := by
  have hrun := createRole_run clock store supply command
  cases hfree : store.nameTaken command.name command.scope none with
  | true =>
    rw [hfree, if_pos rfl] at hrun
    exact ⟨.error _, _, _, hrun, .refused rfl (.refl supply)⟩
  | false =>
    simp only [hfree, Bool.false_eq_true, if_false] at hrun
    rcases hadd : ((command.bare supply.next clock).addEach (clock.past 2) command.permissions).run
      supply.advance with ⟨⟨failure | _, role⟩, later⟩
    · rw [hadd] at hrun
      obtain ⟨message, rfl⟩ := Role.addEach_error hadd
      have hreach : supply.advance.Reaches later := by
        have := Draw.run_reaches
          ((command.bare supply.next clock).addEach (clock.past 2) command.permissions)
          supply.advance
        rwa [hadd] at this
      exact ⟨.error _, _, _, hrun, .refused rfl (supply.reaches_advance.trans hreach)⟩
    · rw [hadd] at hrun
      obtain ⟨hrole, _⟩ := Role.addEach_ok hadd
      have hsame :
          (⟨clock.reading 1, .roleCreated supply.next command.name command.scope⟩ : Event) =
          ⟨clock.reading 1, .roleCreated role.id role.name role.scope⟩ := by
        rw [hrole]
        rfl
      rw [hsame] at hrun
      exact ⟨.ok _, _, _, hrun, .created hfree hadd⟩

theorem updateRole_effect (command : UpdateRole) :
    HasEffect clock store supply (.updateRole command) := by
  have hrun := updateRole_run clock store supply command
  cases hfound : store.role? command.id with
  | none =>
    rw [hfound] at hrun
    exact ⟨.error _, _, _, hrun, .refused rfl (.refl supply)⟩
  | some old =>
    simp only [hfound] at hrun
    cases hfree : store.nameTaken command.name old.scope (some old.id) with
    | true =>
      rw [hfree, if_pos rfl] at hrun
      exact ⟨.error _, _, _, hrun, .refused rfl (.refl supply)⟩
    | false =>
      by_cases hs : old.isSystem = true
      · simp only [hfree, Bool.false_eq_true, if_false, hs, if_true] at hrun
        exact ⟨.error _, _, _, hrun, .refused rfl (.refl supply)⟩
      · have hopen : old.isSystem = false := by simpa using hs
        simp only [hfree, Bool.false_eq_true, if_false, if_neg hs] at hrun
        rcases hsync : ((command.renamed old clock).sync command.permissions (clock.past 2)).run
          supply with ⟨⟨failure | changes, role⟩, later⟩
        · rw [hsync] at hrun
          exact ⟨.error _, _, _, hrun, .halfUpdated hfound hfree hopen hsync⟩
        · rw [hsync] at hrun
          have hrenamed : (command.renamed old clock).isSystem = false := hopen
          obtain ⟨new, hrole, _⟩ := Role.sync_extends hrenamed hsync
          have hsame : (⟨clock.reading 1, .roleUpdated old.id command.name⟩ : Event) =
              ⟨clock.reading 1, .roleUpdated role.id role.name⟩ := by
            rw [hrole]
            rfl
          rw [hsame] at hrun
          exact ⟨.ok _, _, _, hrun, .updated hfound hfree hopen hsync⟩

theorem deleteRole_effect (id : Uuid) : HasEffect clock store supply (.deleteRole id) := by
  have hrun := deleteRole_run clock store supply id
  cases hfound : store.role? id with
  | none =>
    rw [hfound] at hrun
    exact ⟨.error _, _, _, hrun, .refused rfl (.refl supply)⟩
  | some role =>
    obtain ⟨_, rfl⟩ := Table.find_iff.mp hfound
    simp only [hfound] at hrun
    by_cases hheld : 0 < store.countByRole role.id
    · rw [if_pos hheld] at hrun
      exact ⟨.error _, _, _, hrun, .refused rfl (.refl supply)⟩
    · rw [if_neg hheld] at hrun
      by_cases hs : role.isSystem = true
      · rw [if_pos hs] at hrun
        exact ⟨.error _, _, _, hrun, .refused rfl (.refl supply)⟩
      · rw [if_neg hs] at hrun
        exact ⟨.ok _, _, _, hrun, .deleted hfound (by omega) (by simpa using hs)⟩

theorem assignRole_effect (command : AssignRole) :
    HasEffect clock store supply (.assignRole command) := by
  have hrun := assignRole_run clock store supply command
  cases hfound : store.role? command.role with
  | none =>
    rw [hfound] at hrun
    exact ⟨.error _, _, _, hrun, .refused rfl (.refl supply)⟩
  | some role =>
    simp only [hfound] at hrun
    by_cases hscope : role.scope = command.scope
    · cases hfree : store.isAssigned command.role command.user command.scope.id with
      | true =>
        rw [if_neg (not_not_intro hscope), hfree, if_pos rfl] at hrun
        exact ⟨.error _, _, _, hrun, .refused rfl (.refl supply)⟩
      | false =>
        rw [if_neg (not_not_intro hscope), hfree, if_neg Bool.false_ne_true] at hrun
        exact ⟨.ok _, _, _, hrun, .assigned hfound hscope hfree⟩
    · rw [if_pos hscope] at hrun
      exact ⟨.error _, _, _, hrun, .refused rfl (.refl supply)⟩

theorem revokeRole_effect (command : RevokeRole) :
    HasEffect clock store supply (.revokeRole command) := by
  have hrun := revokeRole_run clock store supply command
  cases hfound : store.assignments.rows.find?
      (·.isFor command.role command.user command.scopeId) with
  | none =>
    simp only [Store.grantOf?, hfound, Option.map_none] at hrun
    exact ⟨.error _, _, _, hrun, .refused rfl (.refl supply)⟩
  | some assignment =>
    simp only [Store.grantOf?, hfound, Option.map_some] at hrun
    exact ⟨.ok _, _, _, hrun, .revoked hfound⟩

theorem getRole_effect (id : Uuid) : HasEffect clock store supply (.getRole id) := by
  have hrun := getRole_run store supply id
  cases hfound : store.role? id with
  | none =>
    rw [hfound] at hrun
    exact ⟨.error _, _, _, hrun, .refused rfl (.refl supply)⟩
  | some role =>
    rw [hfound] at hrun
    exact ⟨.ok _, _, _, hrun, .answered _ rfl⟩

/-- Every request has one of the effects. -/
theorem has_effect (request : Request) : HasEffect clock store supply request := by
  cases request with
  | createRole command => exact createRole_effect clock store supply command
  | updateRole command => exact updateRole_effect clock store supply command
  | deleteRole id => exact deleteRole_effect clock store supply id
  | assignRole command => exact assignRole_effect clock store supply command
  | revokeRole command => exact revokeRole_effect clock store supply command
  | getRole id => exact getRole_effect clock store supply id
  | listRoles scope =>
    exact ⟨.ok _, _, _, listRoles_run store supply scope, .answered _ rfl⟩
  | checkPermission query =>
    exact ⟨.ok _, _, _, checkPermission_run store supply query, .answered _ rfl⟩
  | userPermissions query =>
    exact ⟨.ok _, _, _, userPermissions_run store supply query, .answered _ rfl⟩

end UseCase

theorem Store.of_mem_ids_putRole {store : Store} {role : Role} {id : Uuid}
    (h : id ∈ (store.putRole role).ids) :
    id ∈ store.ids ∨ id = role.id ∨ ∃ permission ∈ role.permissions, permission.id = id := by
  rcases List.mem_append.mp h with hrole | hassignment
  · obtain ⟨other, hm, hid⟩ := List.mem_flatMap.mp hrole
    rcases Table.mem_put.mp hm with rfl | ⟨hold, _⟩
    · rcases List.mem_cons.mp hid with rfl | hp
      · exact Or.inr (Or.inl rfl)
      · exact Or.inr (Or.inr (List.mem_map.mp hp))
    · exact Or.inl (List.mem_append_left _ (List.mem_flatMap.mpr ⟨other, hold, hid⟩))
  · exact Or.inl (List.mem_append_right _ hassignment)

theorem Store.of_mem_ids_putAssignment {store : Store} {assignment : Assignment} {id : Uuid}
    (h : id ∈ (store.putAssignment assignment).ids) : id ∈ store.ids ∨ id = assignment.id := by
  rcases List.mem_append.mp h with hrole | hassignment
  · exact Or.inl (List.mem_append_left _ hrole)
  · obtain ⟨other, hm, rfl⟩ := List.mem_map.mp hassignment
    rcases Table.mem_put.mp hm with rfl | ⟨hold, _⟩
    · exact Or.inr rfl
    · exact Or.inl (assignment_id_mem hold)

theorem Store.of_mem_ids_eraseRole {store : Store} {erased id : Uuid}
    (h : id ∈ (store.eraseRole erased).ids) : id ∈ store.ids := by
  rcases List.mem_append.mp h with hrole | hassignment
  · obtain ⟨other, hm, hid⟩ := List.mem_flatMap.mp hrole
    exact List.mem_append_left _
      (List.mem_flatMap.mpr ⟨other, (Table.mem_erase.mp hm).1, hid⟩)
  · exact List.mem_append_right _ hassignment

theorem Store.of_mem_ids_eraseAssignment {store : Store} {erased id : Uuid}
    (h : id ∈ (store.eraseAssignment erased).ids) : id ∈ store.ids := by
  rcases List.mem_append.mp h with hrole | hassignment
  · exact List.mem_append_left _ hrole
  · obtain ⟨other, hm, rfl⟩ := List.mem_map.mp hassignment
    exact assignment_id_mem (Table.mem_erase.mp hm).1

namespace Effect

variable {clock : Clock} {store after : Store} {supply later : Supply} {request : Request}
  {result : Except Failure (Outcome Answer)}

theorem created_role {command : CreateRole} {role : Role}
    (h : ((command.bare supply.next clock).addEach (clock.past 2) command.permissions).run
      supply.advance = ((.ok (), role), later)) :
    role = (command.bare supply.next clock).extend
        (Permission.series supply.next (clock.past 2) supply.advance command.permissions) ∧
      later = supply.advance.skip command.permissions.length :=
  Role.addEach_ok h

theorem synced_role {command : UpdateRole} {old role : Role}
    {ended : Except Failure (List Text × List Text)} (hs : old.isSystem = false)
    (h : ((command.renamed old clock).sync command.permissions (clock.past 2)).run supply =
      ((ended, role), later)) :
    ∃ new, role = ((command.renamed old clock).trimmed command.permissions).extend new ∧
      ∀ permission ∈ new, permission.id ∈ supply.drawnUntil later ∧ permission.role = old.id :=
  have hrenamed : (command.renamed old clock).isSystem = false := hs
  Role.sync_extends hrenamed h

theorem synced_actions {command : UpdateRole} {old role : Role}
    {changes : List Text × List Text} {action : Text} (hs : old.isSystem = false)
    (h : ((command.renamed old clock).sync command.permissions (clock.past 2)).run supply =
      ((.ok changes, role), later)) : action ∈ role.actions ↔ action ∈ command.permissions :=
  have hrenamed : (command.renamed old clock).isSystem = false := hs
  Role.mem_actions_synced hrenamed h

theorem synced_reaches {command : UpdateRole} {old role : Role}
    {ended : Except Failure (List Text × List Text)}
    (h : ((command.renamed old clock).sync command.permissions (clock.past 2)).run supply =
      ((ended, role), later)) : supply.Reaches later := by
  have := Draw.run_reaches ((command.renamed old clock).sync command.permissions (clock.past 2))
    supply
  rwa [h] at this

theorem reaches (h : Effect clock store supply request result after later) :
    supply.Reaches later := by
  cases h with
  | refused _ hreach => exact hreach
  | answered => exact .refl supply
  | created _ hadd =>
    rw [(created_role hadd).2]
    exact supply.reaches_advance.trans (supply.advance.reaches_skip _)
  | updated _ _ _ hsync => exact synced_reaches hsync
  | halfUpdated _ _ _ hsync => exact synced_reaches hsync
  | deleted => exact .refl supply
  | assigned => exact supply.reaches_advance
  | revoked => exact .refl supply

theorem synced_ids {command : UpdateRole} {old role : Role} {id : Uuid}
    {ended : Except Failure (List Text × List Text)}
    (hfound : store.role? command.id = some old) (hs : old.isSystem = false)
    (hsync : ((command.renamed old clock).sync command.permissions (clock.past 2)).run supply =
      ((ended, role), later))
    (h : id ∈ (store.putRole role).ids) : id ∈ store.ids ∨ id ∈ supply.drawnUntil later := by
  obtain ⟨hold, _⟩ := Table.find_iff.mp hfound
  have hsame : old.id ∈ store.ids := Store.role_id_mem hold
  obtain ⟨new, rfl, hnew⟩ := synced_role hs hsync
  rcases Store.of_mem_ids_putRole h with hin | rfl | ⟨permission, hp, rfl⟩
  · exact Or.inl hin
  · exact Or.inl hsame
  · rcases List.mem_append.mp hp with hkept | hadded
    · exact Or.inl (Store.permission_id_mem hold (List.mem_filter.mp hkept).1)
    · exact Or.inr (hnew permission hadded).1

/-- Every identifier in the records is an old one or newly drawn. -/
theorem ids (h : Effect clock store supply request result after later) :
    ∀ id ∈ after.ids, id ∈ store.ids ∨ id ∈ supply.drawnUntil later := by
  intro id hid
  cases h with
  | refused => exact Or.inl hid
  | answered => exact Or.inl hid
  | created _ hadd =>
    obtain ⟨rfl, rfl⟩ := created_role hadd
    have hreach := supply.advance.reaches_skip
    rcases Store.of_mem_ids_putRole hid with hin | rfl | ⟨permission, hp, rfl⟩
    · exact Or.inl hin
    · exact Or.inr (Supply.next_mem_drawnUntil (hreach _))
    · exact Or.inr (Supply.drawnUntil_second supply.reaches_advance (hreach _) _
        (Permission.of_mem_series hp).1)
  | updated hfound _ hs hsync => exact synced_ids hfound hs hsync hid
  | halfUpdated hfound _ hs hsync => exact synced_ids hfound hs hsync hid
  | deleted => exact Or.inl (Store.of_mem_ids_eraseRole hid)
  | assigned =>
    rcases Store.of_mem_ids_putAssignment hid with hin | rfl
    · exact Or.inl hin
    · exact Or.inr (Supply.next_mem_drawnUntil (.refl _))
  | revoked => exact Or.inl (Store.of_mem_ids_eraseAssignment hid)

end Effect
end Rbac
