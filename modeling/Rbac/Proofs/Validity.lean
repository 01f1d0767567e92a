import Rbac.Proofs.Atomicity
import Rbac.Proofs.Database.Writing

namespace Rbac

/-- A role as the rules want it. -/
structure Role.Valid (pattern : Pattern) (role : Role) : Prop where
  name_visible : Text.isBlank role.name = false
  name_short : role.name.length ≤ 100
  description_short : ∀ text ∈ role.description, text.length ≤ 500
  scope_given : role.scope.id.isNil = false
  actions_visible : ∀ action ∈ role.actions, Text.isBlank action = false
  actions_short : ∀ action ∈ role.actions, action.length ≤ 200
  actions_accepted : ∀ action ∈ role.actions, pattern.accepts action = true

/-- An assignment as the rules want it. -/
structure Assignment.Valid (assignment : Assignment) : Prop where
  role_given : assignment.role.isNil = false
  user_given : assignment.user.isNil = false
  scope_given : assignment.scope.id.isNil = false
  assigner_given : assignment.assignedBy.isNil = false

namespace Store

structure Valid (pattern : Pattern) (store : Store) : Prop where
  roles : ∀ role ∈ store.roles.rows, role.Valid pattern
  assignments : ∀ assignment ∈ store.assignments.rows, assignment.Valid

/-- Whether the tables of the schema take the records, each as the row that is written for it: every
cell is of its column, and the checks of the table pass. -/
structure FitsSchema (store : Store) : Prop where
  roles : ∀ role ∈ store.roles.rows,
    Sql.Schema.roles.fits (Sql.RoleRow.ofRole role).cells = true
  permissions : ∀ role ∈ store.roles.rows, ∀ permission ∈ role.permissions,
    Sql.Schema.permissions.fits (Sql.permissionCells permission) = true
  assignments : ∀ assignment ∈ store.assignments.rows,
    Sql.Schema.assignments.fits (Sql.AssignmentRow.ofAssignment assignment).cells = true

namespace Valid

variable {pattern : Pattern} {store : Store}

theorem empty : Valid pattern .empty := by
  refine ⟨?_, ?_⟩
  · intro _ hin
    cases hin
  · intro _ hin
    cases hin

theorem put_role (h : Valid pattern store) {role : Role} (hrole : role.Valid pattern) :
    Valid pattern (store.putRole role) := by
  refine ⟨?_, h.assignments⟩
  intro other ho
  rcases Table.mem_put.mp ho with rfl | ⟨hold, _⟩
  · exact hrole
  · exact h.roles other hold

theorem erase_role (h : Valid pattern store) (id : Uuid) : Valid pattern (store.eraseRole id) :=
  ⟨fun role hrole => h.roles role (Table.mem_erase.mp hrole).1, h.assignments⟩

theorem put_assignment (h : Valid pattern store) {assignment : Assignment}
    (hassignment : assignment.Valid) : Valid pattern (store.putAssignment assignment) := by
  refine ⟨h.roles, ?_⟩
  intro other ho
  rcases Table.mem_put.mp ho with rfl | ⟨hold, _⟩
  · exact hassignment
  · exact h.assignments other hold

theorem erase_assignment (h : Valid pattern store) (id : Uuid) :
    Valid pattern (store.eraseAssignment id) :=
  ⟨h.roles, fun held hheld => h.assignments held (Table.mem_erase.mp hheld).1⟩

theorem created_valid {command : CreateRole} {role : Role} {clock : Clock} {supply later : Supply}
    (hvalid : Validation.breaches pattern (.createRole command) = [])
    (hadd : ((command.bare supply.next clock).addEach (clock.past 2) command.permissions).run
      supply.advance = ((.ok (), role), later)) : role.Valid pattern := by
  obtain ⟨hname, hdescription, hscope, hactions⟩ := Validation.breaches_nil_iff.mp hvalid
  obtain ⟨rfl, _⟩ := Effect.created_role hadd
  have hasked : ∀ action ∈ ((command.bare supply.next clock).extend (Permission.series supply.next
      (clock.past 2) supply.advance command.permissions)).actions,
      action ∈ command.permissions := by
    rw [Role.actions_extend, Permission.series_actions]
    exact fun action ha => ha
  exact ⟨hname.1, hname.2, hdescription, hscope,
    fun action ha => (hactions action (hasked action ha)).visible,
    fun action ha => (hactions action (hasked action ha)).short,
    fun action ha => (hactions action (hasked action ha)).accepted⟩

/-- A role that a valid update has changed has the scope that it had and the actions asked for;
those that it has kept are among them. -/
theorem updated_valid {command : UpdateRole} {old role : Role} {clock : Clock}
    {supply later : Supply} {changes : List Text × List Text} (hold : old.Valid pattern)
    (hvalid : Validation.breaches pattern (.updateRole command) = []) (hs : old.isSystem = false)
    (hsync : ((command.renamed old clock).sync command.permissions (clock.past 2)).run supply =
      ((.ok changes, role), later)) : role.Valid pattern := by
  obtain ⟨_, hname, hdescription, hactions⟩ := Validation.breaches_nil_iff.mp hvalid
  have hasked : ∀ action ∈ role.actions, action ∈ command.permissions :=
    fun action ha => (Effect.synced_actions hs hsync).mp ha
  obtain ⟨new, rfl, _⟩ := Effect.synced_role hs hsync
  exact ⟨hname.1, hname.2, hdescription, hold.scope_given,
    fun action ha => (hactions action (hasked action ha)).visible,
    fun action ha => (hactions action (hasked action ha)).short,
    fun action ha => (hactions action (hasked action ha)).accepted⟩

/-- A request that keeps its rules leaves valid records. -/
theorem effect {clock : Clock} {after : Store} {supply later : Supply} {request : Request}
    {result : Except Failure (Outcome Answer)} (h : Valid pattern store)
    (hvalid : Validation.breaches pattern request = [])
    (heffect : Effect clock store supply request result after later) : Valid pattern after := by
  cases heffect with
  | refused => exact h
  | answered => exact h
  | created _ hadd => exact h.put_role (created_valid hvalid hadd)
  | updated hfound _ hs hsync =>
    exact h.put_role (updated_valid (h.roles _ (Table.find_iff.mp hfound).1) hvalid hs hsync)
  | halfUpdated _ _ hs hstopped =>
    exact (Effect.not_half (Validation.updateRole_blank hvalid) hs hstopped).elim
  | deleted => exact h.erase_role _
  | assigned =>
    obtain ⟨hrole, huser, hscope, hassigner⟩ := Validation.breaches_nil_iff.mp hvalid
    exact h.put_assignment ⟨hrole, huser, hscope, hassigner⟩
  | revoked => exact h.erase_assignment _

theorem step {world : World} (h : Valid pattern world.store) (request : Request) (clock : Clock) :
    Valid pattern (World.step pattern ⟨request, clock, false⟩ world).2.store := by
  rcases World.step_effect pattern ⟨request, clock, false⟩ world with
    ⟨_, hstep⟩ | ⟨hvalid, heffect⟩
  · rw [hstep]
    exact h
  · exact h.effect (hvalid rfl) heffect

/-- Valid records fit the schema: the limits of the rules are those of the columns. -/
theorem fitsSchema (h : Valid pattern store) : store.FitsSchema := by
  refine ⟨?_, ?_, ?_⟩
  · intro role hrole
    have hfits : Sql.RoleFits role.name role.description :=
      ⟨(h.roles role hrole).name_short, (h.roles role hrole).description_short⟩
    exact hfits.row
  · intro role hrole permission hp
    have haction : permission.action ∈ role.actions := List.mem_map_of_mem hp
    exact Sql.Schema.permissions_fits ((h.roles role hrole).actions_short _ haction)
  · intro assignment _
    apply Sql.Schema.assignments_fits
    change (Text.ofString assignment.scope.type.text).length ≤ 20
    cases assignment.scope.type <;> decide

end Valid
end Store

/-- After every step of a run of dispatched requests from nothing, the records keep the rules of the
fields, and the tables of the schema take them. -/
theorem stored_data_valid (pattern : Pattern) (supply : Supply) (steps : List World.Step)
    (hdispatched : ∀ step ∈ steps, step.direct = false) (n : Nat) :
    let store := (World.after pattern (steps.take n) (.blank supply)).store
    store.Valid pattern ∧ store.FitsSchema := by
  intro store
  have hvalid : store.Valid pattern := by
    apply World.run_preserves (P := fun _ world => world.store.Valid pattern) .empty
    rintro _ ⟨request, clock, direct⟩ world hin hworld
    obtain rfl : direct = false := hdispatched _ (List.mem_of_mem_take hin)
    exact hworld.step request clock
  exact ⟨hvalid, hvalid.fitsSchema⟩

theorem stored_data_valid_trial :
    (∀ step ∈ World.trial, step.direct = false) ∧
      let store :=
        (World.after (.star false (.one .dot)) (World.trial.take 7) (.blank (.after 100))).store
      store.roles.rows.length = 2 ∧ store.Valid (.star false (.one .dot)) ∧ store.FitsSchema := by
  have hdispatched : ∀ step ∈ World.trial, step.direct = false := by decide +kernel
  exact ⟨hdispatched, by decide +kernel,
    stored_data_valid (.star false (.one .dot)) (.after 100) World.trial hdispatched 7⟩

end Rbac
