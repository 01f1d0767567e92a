import Rbac.Proofs.Integrity
import Rbac.Proofs.Naming

namespace Rbac

/-- The permissions of a role are its own and have ids of their own, each for another action, and no
action is blank. -/
structure Role.Tidy (role : Role) : Prop where
  distinct : role.actions.Nodup
  visible : ∀ action ∈ role.actions, Text.isBlank action = false
  owned : ∀ permission ∈ role.permissions, permission.role = role.id
  ids_distinct : (role.permissions.map (·.id)).Nodup

instance (role : Role) : Decidable role.Tidy :=
  decidable_of_iff (role.actions.Nodup ∧ (∀ action ∈ role.actions, Text.isBlank action = false) ∧
      (∀ permission ∈ role.permissions, permission.role = role.id) ∧
      (role.permissions.map (·.id)).Nodup)
    ⟨fun h => ⟨h.1, h.2.1, h.2.2.1, h.2.2.2⟩,
      fun h => ⟨h.distinct, h.visible, h.owned, h.ids_distinct⟩⟩

namespace Role.Tidy

variable {role after : Role} {clock : Clock} {supply later : Supply}

theorem of_no_permissions (h : role.permissions = []) : role.Tidy := by
  refine ⟨?_, ?_, ?_, ?_⟩
  all_goals simp [actions, h]

theorem keep (h : role.Tidy) (wanted : Text → Bool) : (role.keep wanted).Tidy := by
  have hsub : (role.keep wanted).permissions.Sublist role.permissions := List.filter_sublist
  refine ⟨h.distinct.sublist (hsub.map _), ?_, ?_, h.ids_distinct.sublist (hsub.map _)⟩
  · intro action ha
    exact h.visible action (mem_actions_keep.mp ha).1
  · intro permission hp
    exact h.owned permission (hsub.subset hp)

theorem extend_one (h : role.Tidy) {action : Text} (hr : role.refusal? action = none)
    {id : Uuid} (hid : id ∉ role.permissions.map (·.id)) (moment : Instant) :
    (role.extend [⟨id, role.id, action, moment⟩]).Tidy := by
  obtain ⟨_, hnew, hvisible⟩ := refusal_none hr
  refine ⟨?_, ?_, ?_, ?_⟩
  · rw [actions_extend, List.map_singleton, ← List.concat_eq_append, List.nodup_concat]
    exact ⟨hnew, h.distinct⟩
  · intro other ho
    rw [actions_extend, List.mem_append] at ho
    rcases ho with hold | hadded
    · exact h.visible other hold
    · rw [List.mem_singleton.mp hadded]
      exact hvisible
  · intro permission hp
    rcases List.mem_append.mp hp with hold | hadded
    · exact h.owned permission hold
    · rw [List.mem_singleton.mp hadded]
      rfl
  · simp only [extend, List.map_append, List.map_singleton]
    rw [← List.concat_eq_append, List.nodup_concat]
    exact ⟨hid, h.ids_distinct⟩

theorem addEach (h : role.Tidy) {actions : List Text} {result : Except Failure Unit}
    (hrun : (role.addEach clock actions).run supply = ((result, after), later))
    (hdistinct : (supply.drawnUntil later).Nodup)
    (hnew : ∀ id ∈ supply.drawnUntil later, id ∉ role.permissions.map (·.id)) : after.Tidy := by
  induction actions generalizing role clock supply with
  | nil =>
    simp only [Role.addEach, Draw.run_pure, Prod.mk.injEq] at hrun
    rw [← hrun.1.2]
    exact h
  | cons action rest ih =>
    have hadd := role.add_run action (clock.reading 0) supply
    cases hr : role.refusal? action with
    | some failure =>
      simp only [hr] at hadd
      simp only [Role.addEach, Draw.run_bind, hadd, Draw.run_pure, Prod.mk.injEq] at hrun
      rw [← hrun.1.2]
      exact h
    | none =>
      simp only [hr] at hadd
      simp only [Role.addEach, Draw.run_bind, hadd] at hrun
      have hreach : supply.advance.Reaches later := by
        have := Draw.run_reaches
          ((role.extend [⟨supply.next, role.id, action, clock.reading 0⟩]).addEach
            (clock.past 1) rest) supply.advance
        rwa [hrun] at this
      rw [Supply.drawnUntil_cons hreach] at hdistinct hnew
      obtain ⟨hnext, hrest⟩ := List.nodup_cons.mp hdistinct
      apply ih (h.extend_one hr (hnew _ (by simp)) (clock.reading 0)) hrun hrest
      intro id hid hin
      rw [extend, List.map_append, List.mem_append] at hin
      rcases hin with hold | hadded
      · exact hnew id (List.mem_cons_of_mem _ hid) hold
      · rw [List.mem_singleton.mp hadded] at hid
        exact hnext hid

theorem sync (h : role.Tidy) (hs : role.isSystem = false) {requested : List Text}
    {result : Except Failure (List Text × List Text)}
    (hrun : (role.sync requested clock).run supply = ((result, after), later))
    (hdistinct : (supply.drawnUntil later).Nodup)
    (hnew : ∀ id ∈ supply.drawnUntil later, id ∉ role.permissions.map (·.id)) : after.Tidy := by
  obtain ⟨_, hadd, _⟩ := sync_adds hs hrun
  apply (h.keep _).addEach hadd hdistinct
  intro id hid hin
  obtain ⟨permission, hp, rfl⟩ := List.mem_map.mp hin
  exact hnew _ hid (List.mem_map.mpr ⟨permission, (List.mem_filter.mp hp).1, rfl⟩)

end Role.Tidy

structure RoleIntegrity (store : Store) : Prop where
  names : ∀ a ∈ store.roles.rows, ∀ b ∈ store.roles.rows,
    a.name = b.name → a.scope = b.scope → a = b
  tidy : ∀ role ∈ store.roles.rows, role.Tidy

instance (store : Store) : Decidable (RoleIntegrity store) :=
  decidable_of_iff ((∀ a ∈ store.roles.rows, ∀ b ∈ store.roles.rows,
      a.name = b.name → a.scope = b.scope → a = b) ∧ ∀ role ∈ store.roles.rows, role.Tidy)
    ⟨fun h => ⟨h.1, h.2⟩, fun h => ⟨h.names, h.tidy⟩⟩

namespace RoleIntegrity

variable {store : Store}

theorem empty : RoleIntegrity .empty := by
  refine ⟨Store.OwnNames.empty, ?_⟩
  intro _ hin
  cases hin

/-- A tidy role may come, or take the place of its older self, if no other role of its scope has
the name. -/
theorem put_role (h : RoleIntegrity store) {role : Role} (htidy : role.Tidy)
    (hfree : store.nameTaken role.name role.scope (some role.id) = false) :
    RoleIntegrity (store.putRole role) := by
  refine ⟨Store.OwnNames.put_role h.names hfree, ?_⟩
  intro other ho
  rcases Table.mem_put.mp ho with rfl | ⟨hold, _⟩
  · exact htidy
  · exact h.tidy other hold

theorem erase_role (h : RoleIntegrity store) (id : Uuid) : RoleIntegrity (store.eraseRole id) :=
  ⟨Store.OwnNames.erase_role h.names id,
    fun role hrole => h.tidy role (Table.mem_erase.mp hrole).1⟩

theorem created_tidy {command : CreateRole} {role : Role} {clock : Clock} {supply later : Supply}
    (hadd : ((command.bare supply.next clock).addEach (clock.past 2) command.permissions).run
        supply.advance =
      ((.ok (), role), later))
    (hfresh : Fresh (supply.drawnUntil later) store.ids) : role.Tidy := by
  obtain ⟨_, hlater⟩ := Effect.created_role hadd
  have hreach := supply.advance.reaches_skip command.permissions.length
  apply (Role.Tidy.of_no_permissions rfl).addEach hadd
  · rw [hlater] at hfresh ⊢
    rw [Supply.drawnUntil_cons hreach] at hfresh
    exact (List.nodup_cons.mp hfresh.distinct).2
  · intro _ _ hin
    cases hin

theorem synced_tidy (h : RoleIntegrity store) {command : UpdateRole} {old role : Role}
    {clock : Clock} {supply later : Supply} {ended : Except Failure (List Text × List Text)}
    (hfound : store.role? command.id = some old) (hs : old.isSystem = false)
    (hsync : ((command.renamed old clock).sync command.permissions (clock.past 2)).run supply =
      ((ended, role), later))
    (hfresh : Fresh (supply.drawnUntil later) store.ids) : role.Tidy := by
  obtain ⟨hold, _⟩ := Table.find_iff.mp hfound
  have hrenamed : (command.renamed old clock).Tidy := by
    obtain ⟨hdistinct, hvisible, howned, hids⟩ := h.tidy old hold
    exact ⟨hdistinct, hvisible, howned, hids⟩
  apply hrenamed.sync hs hsync hfresh.distinct
  intro id hid hin
  obtain ⟨permission, hp, rfl⟩ := List.mem_map.mp hin
  exact hfresh.absent _ hid (Store.permission_id_mem hold hp)

theorem put_synced (h : RoleIntegrity store) {command : UpdateRole} {old role : Role}
    {clock : Clock} {supply later : Supply} {ended : Except Failure (List Text × List Text)}
    (hfound : store.role? command.id = some old)
    (hfree : store.nameTaken command.name old.scope (some old.id) = false)
    (hs : old.isSystem = false)
    (hsync : ((command.renamed old clock).sync command.permissions (clock.past 2)).run supply =
      ((ended, role), later))
    (hfresh : Fresh (supply.drawnUntil later) store.ids) : RoleIntegrity (store.putRole role) := by
  apply h.put_role (h.synced_tidy hfound hs hsync hfresh)
  obtain ⟨new, rfl, _⟩ := Effect.synced_role hs hsync
  exact hfree

theorem effect {clock : Clock} {after : Store} {supply later : Supply} {request : Request}
    {result : Except Failure (Outcome Answer)} (h : RoleIntegrity store)
    (heffect : Effect clock store supply request result after later)
    (hfresh : Fresh (supply.drawnUntil later) store.ids) : RoleIntegrity after := by
  cases heffect with
  | refused => exact h
  | answered => exact h
  | @created command role _ hfree hadd =>
    obtain ⟨rfl, _⟩ := Effect.created_role hadd
    exact h.put_role (created_tidy hadd hfresh) (Store.nameFree_except hfree _)
  | updated hfound hfree hs hsync => exact h.put_synced hfound hfree hs hsync hfresh
  | halfUpdated hfound hfree hs hsync => exact h.put_synced hfound hfree hs hsync hfresh
  | deleted => exact h.erase_role _
  | assigned => exact ⟨h.names, h.tidy⟩
  | revoked => exact ⟨h.names, h.tidy⟩

theorem step {pattern : Pattern} {step : World.Step} {world : World}
    (h : RoleIntegrity world.store)
    (hfresh : Fresh (world.supply.drawnUntil (World.step pattern step world).2.supply)
      world.store.ids) : RoleIntegrity (World.step pattern step world).2.store := by
  rcases World.step_effect pattern step world with ⟨_, hstep⟩ | ⟨_, heffect⟩
  · rw [hstep]
    exact h
  · exact h.effect heffect hfresh

/-- Integrity of roles lasts through a whole run. -/
theorem run {pattern : Pattern} {steps : List World.Step} {start : World}
    (h : RoleIntegrity start.store)
    (hfresh : Fresh (World.drawn pattern steps start) start.store.ids) :
    RoleIntegrity (World.after pattern steps start).store := by
  apply World.run_induction (P := fun _ world => RoleIntegrity world.store) hfresh h
  intro entries step world _ hworld _ hnew
  exact hworld.step ⟨hnew.distinct, hnew.absent_left⟩

end RoleIntegrity

/-- From records with integrity of roles, every step of every run, dispatched or direct, failing or
not, leaves such records, if the identifiers drawn are new. -/
theorem role_integrity_after_each_step (pattern : Pattern) (steps : List World.Step)
    (start : World) (hstart : RoleIntegrity start.store)
    (hfresh : Fresh (World.drawn pattern steps start) start.store.ids) (n : Nat) :
    RoleIntegrity (World.after pattern (steps.take n) start).store :=
  hstart.run (World.fresh_take hfresh n)

theorem role_integrity_after_upheaval :
    RoleIntegrity heldReader.store ∧
      Fresh (World.drawn (.star false (.one .dot)) upheaval heldReader) heldReader.store.ids ∧
      RoleIntegrity (World.after (.star false (.one .dot)) (upheaval.take 1) heldReader).store := by
  have hstart : RoleIntegrity heldReader.store := by decide
  have hfresh : Fresh (World.drawn (.star false (.one .dot)) upheaval heldReader)
      heldReader.store.ids := by decide +kernel
  exact ⟨hstart, hfresh, role_integrity_after_each_step _ _ _ hstart hfresh 1⟩

end Rbac
