import Rbac.Proofs.Runs

namespace Rbac

def Assignment.key (assignment : Assignment) : Uuid × Uuid × Uuid :=
  (assignment.role, assignment.user, assignment.scope.id)

structure Integrity (store : Store) : Prop where
  in_scope : ∀ assignment ∈ store.assignments.rows,
    ∃ role ∈ store.roles.rows, role.id = assignment.role ∧ role.scope = assignment.scope
  unique : ∀ a ∈ store.assignments.rows, ∀ b ∈ store.assignments.rows, a.key = b.key → a = b

instance (store : Store) : Decidable (Integrity store) :=
  decidable_of_iff ((∀ assignment ∈ store.assignments.rows,
      ∃ role ∈ store.roles.rows, role.id = assignment.role ∧ role.scope = assignment.scope) ∧
      ∀ a ∈ store.assignments.rows, ∀ b ∈ store.assignments.rows, a.key = b.key → a = b)
    ⟨fun h => ⟨h.1, h.2⟩, fun h => ⟨h.in_scope, h.unique⟩⟩

theorem Assignment.isFor_iff {assignment : Assignment} {role user scopeId : Uuid} :
    assignment.isFor role user scopeId = true ↔ assignment.key = (role, user, scopeId) := by
  simp [isFor, key, and_assoc]

namespace Store

variable {store : Store} {role user scopeId : Uuid}

theorem isAssigned_iff :
    store.isAssigned role user scopeId = true ↔
      ∃ assignment ∈ store.assignments.rows, assignment.key = (role, user, scopeId) := by
  simp [isAssigned, Assignment.isFor_iff]

theorem rows_putAssignment {assignment : Assignment} (hnew : assignment.id ∉ store.ids) :
    (store.putAssignment assignment).assignments.rows =
      store.assignments.rows ++ [assignment] := by
  apply Table.rows_put_of_fresh
  intro other ho he
  exact hnew (he ▸ assignment_id_mem ho)

theorem isAssigned_putAssignment {assignment : Assignment} (hnew : assignment.id ∉ store.ids) :
    (store.putAssignment assignment).isAssigned role user scopeId = true ↔
      assignment.key = (role, user, scopeId) ∨ store.isAssigned role user scopeId = true := by
  simp only [isAssigned_iff]
  constructor
  · rintro ⟨other, ho, hkey⟩
    rcases Table.mem_put.mp ho with rfl | ⟨hold, _⟩
    · exact Or.inl hkey
    · exact Or.inr ⟨other, hold, hkey⟩
  · rintro (hkey | ⟨other, hold, hkey⟩)
    · exact ⟨assignment, Table.mem_put.mpr (Or.inl rfl), hkey⟩
    · have hne : other.id ≠ assignment.id := fun he => hnew (he ▸ assignment_id_mem hold)
      exact ⟨other, Table.mem_put.mpr (Or.inr ⟨hold, hne⟩), hkey⟩

theorem isAssigned_eraseAssignment {assignment : Assignment}
    (hstored : assignment ∈ store.assignments.rows) :
    store.isAssigned role user scopeId = true ↔
      assignment.key = (role, user, scopeId) ∨
        (store.eraseAssignment assignment.id).isAssigned role user scopeId = true := by
  simp only [isAssigned_iff]
  constructor
  · rintro ⟨other, hold, hkey⟩
    by_cases he : other.id = assignment.id
    · obtain rfl : other = assignment := Table.key_inj hold hstored he
      exact Or.inl hkey
    · exact Or.inr ⟨other, Table.mem_erase.mpr ⟨hold, he⟩, hkey⟩
  · rintro (hkey | ⟨other, ho, hkey⟩)
    · exact ⟨assignment, hstored, hkey⟩
    · exact ⟨other, (Table.mem_erase.mp ho).1, hkey⟩

end Store

namespace Integrity

variable {store : Store}

theorem empty : Integrity .empty := by
  refine ⟨?_, ?_⟩
  · intro _ hin
    cases hin
  · intro _ hin
    cases hin

theorem put_role (h : Integrity store) {role : Role}
    (hscope : ∀ old ∈ store.roles.rows, old.id = role.id → old.scope = role.scope) :
    Integrity (store.putRole role) := by
  refine ⟨?_, h.unique⟩
  intro assignment ha
  obtain ⟨held, hheld, hid, hin⟩ := h.in_scope assignment ha
  by_cases he : held.id = role.id
  · exact ⟨role, Table.mem_put.mpr (Or.inl rfl), he.symm.trans hid,
      (hscope held hheld he).symm.trans hin⟩
  · exact ⟨held, Table.mem_put.mpr (Or.inr ⟨hheld, he⟩), hid, hin⟩

theorem erase_role (h : Integrity store) {id : Uuid} (hunheld : store.countByRole id = 0) :
    Integrity (store.eraseRole id) := by
  refine ⟨?_, h.unique⟩
  intro assignment ha
  obtain ⟨role, hrole, hid, hin⟩ := h.in_scope assignment ha
  have hne : assignment.role ≠ id := by
    simpa using List.countP_eq_zero.mp hunheld assignment ha
  exact ⟨role, Table.mem_erase.mpr ⟨hrole, fun he => hne (hid.symm.trans he)⟩, hid, hin⟩

theorem put_assignment (h : Integrity store) {assignment : Assignment} {role : Role}
    (hfound : store.role? assignment.role = some role) (hscope : role.scope = assignment.scope)
    (hfree : store.isAssigned assignment.role assignment.user assignment.scope.id = false) :
    Integrity (store.putAssignment assignment) := by
  obtain ⟨hrole, hid⟩ := Table.find_iff.mp hfound
  have hnew : ∀ other ∈ store.assignments.rows, other.key ≠ assignment.key := by
    intro other ho he
    rw [Store.isAssigned_iff.mpr ⟨other, ho, he⟩] at hfree
    cases hfree
  refine ⟨?_, ?_⟩
  · intro other ho
    rcases Table.mem_put.mp ho with rfl | ⟨hold, _⟩
    · exact ⟨role, hrole, hid, hscope⟩
    · exact h.in_scope other hold
  · intro a ha b hb he
    rcases Table.mem_put.mp ha with rfl | ⟨hold, _⟩
    · rcases Table.mem_put.mp hb with rfl | ⟨hb, _⟩
      · rfl
      · exact absurd he.symm (hnew b hb)
    · rcases Table.mem_put.mp hb with rfl | ⟨hb, _⟩
      · exact absurd he (hnew a hold)
      · exact h.unique a hold b hb he

theorem erase_assignment (h : Integrity store) (id : Uuid) :
    Integrity (store.eraseAssignment id) := by
  refine ⟨?_, ?_⟩
  · intro assignment ha
    exact h.in_scope assignment (Table.mem_erase.mp ha).1
  · intro a ha b hb he
    exact h.unique a (Table.mem_erase.mp ha).1 b (Table.mem_erase.mp hb).1 he

/-- An update leaves the role under its id and in its scope, however far it gets. -/
theorem put_synced (h : Integrity store) {command : UpdateRole} {old role : Role} {clock : Clock}
    {supply later : Supply} {ended : Except Failure (List Text × List Text)}
    (hfound : store.role? command.id = some old) (hs : old.isSystem = false)
    (hsync : ((command.renamed old clock).sync command.permissions (clock.past 2)).run supply =
      ((ended, role), later)) : Integrity (store.putRole role) := by
  obtain ⟨hold, _⟩ := Table.find_iff.mp hfound
  obtain ⟨new, rfl, _⟩ := Effect.synced_role hs hsync
  apply h.put_role
  intro other ho he
  have hsame : other = old := Table.key_inj ho hold he
  rw [hsame]
  rfl

theorem effect {clock : Clock} {after : Store} {supply later : Supply} {request : Request}
    {result : Except Failure (Outcome Answer)} (h : Integrity store)
    (heffect : Effect clock store supply request result after later)
    (hfresh : ∀ id ∈ supply.drawnUntil later, id ∉ store.ids) : Integrity after := by
  cases heffect with
  | refused => exact h
  | answered => exact h
  | created _ hadd =>
    obtain ⟨rfl, rfl⟩ := Effect.created_role hadd
    apply h.put_role
    intro old hold he
    have hnew := hfresh _ (Supply.next_mem_drawnUntil (supply.advance.reaches_skip _))
    have hid : old.id = supply.next := he
    exact absurd (hid ▸ Store.role_id_mem hold) hnew
  | updated hfound _ hs hsync => exact h.put_synced hfound hs hsync
  | halfUpdated hfound _ hs hsync => exact h.put_synced hfound hs hsync
  | deleted _ hunheld => exact h.erase_role hunheld
  | assigned hfound hscope hfree => exact h.put_assignment hfound hscope hfree
  | revoked => exact h.erase_assignment _

theorem step {pattern : Pattern} {step : World.Step} {world : World} (h : Integrity world.store)
    (hfresh : ∀ id ∈ world.supply.drawnUntil (World.step pattern step world).2.supply,
      id ∉ world.store.ids) : Integrity (World.step pattern step world).2.store := by
  rcases World.step_effect pattern step world with ⟨_, hstep⟩ | ⟨_, heffect⟩
  · rw [hstep]
    exact h
  · exact h.effect heffect hfresh

/-- Integrity lasts through a whole run. -/
theorem run {pattern : Pattern} {steps : List World.Step} {start : World}
    (h : Integrity start.store)
    (hfresh : Fresh (World.drawn pattern steps start) start.store.ids) :
    Integrity (World.after pattern steps start).store := by
  apply World.run_induction (P := fun _ world => Integrity world.store) hfresh h
  intro entries step world _ hworld _ hnew
  exact hworld.step hnew.absent_left

end Integrity

/-- From records with integrity, every step of every run, dispatched or direct, failing or not,
leaves records with integrity, if the identifiers drawn are new. -/
theorem integrity_after_each_step (pattern : Pattern) (steps : List World.Step) (start : World)
    (hstart : Integrity start.store)
    (hfresh : Fresh (World.drawn pattern steps start) start.store.ids) (n : Nat) :
    Integrity (World.after pattern (steps.take n) start).store :=
  hstart.run (World.fresh_take hfresh n)

def heldReader : World where
  store := ⟨⟨[⟨Uuid.ofNat 1, "reader", ⟨.organization, Uuid.ofNat 7⟩, .epoch, none, false, none,
      [⟨Uuid.ofNat 2, Uuid.ofNat 1, "doc:read", .epoch⟩]⟩], by decide⟩,
    ⟨[⟨Uuid.ofNat 3, Uuid.ofNat 1, Uuid.ofNat 4, ⟨.organization, Uuid.ofNat 7⟩, .epoch,
      Uuid.ofNat 5⟩], by decide⟩⟩
  supply := .after 100

/-- Steps that try the integrity of that world: among them an update that stops half way, a grant in
another scope and the deletion of a role that is held. -/
def upheaval : List World.Step :=
  [⟨.updateRole ⟨Uuid.ofNat 1, "writer", none, ["doc:write", ""]⟩, .epoch, true⟩,
    ⟨.createRole ⟨"reader", ⟨.organization, Uuid.ofNat 7⟩, none, ["doc:read"]⟩, .epoch, false⟩,
    ⟨.assignRole ⟨Uuid.ofNat 102, Uuid.ofNat 4, ⟨.organization, Uuid.ofNat 7⟩, Uuid.ofNat 5⟩,
      .epoch, false⟩,
    ⟨.assignRole ⟨Uuid.ofNat 102, Uuid.ofNat 4, ⟨.workspace, Uuid.ofNat 7⟩, Uuid.ofNat 5⟩,
      .epoch, true⟩,
    ⟨.deleteRole (Uuid.ofNat 1), .epoch, true⟩,
    ⟨.revokeRole ⟨Uuid.ofNat 1, Uuid.ofNat 4, Uuid.ofNat 7⟩, .epoch, false⟩,
    ⟨.deleteRole (Uuid.ofNat 1), .epoch, false⟩]

theorem integrity_after_upheaval :
    Integrity heldReader.store ∧
      Fresh (World.drawn (.star false (.one .dot)) upheaval heldReader) heldReader.store.ids ∧
      Integrity (World.after (.star false (.one .dot)) (upheaval.take 5) heldReader).store := by
  have hstart : Integrity heldReader.store := by decide
  have hfresh : Fresh (World.drawn (.star false (.one .dot)) upheaval heldReader)
      heldReader.store.ids := by decide +kernel
  exact ⟨hstart, hfresh, integrity_after_each_step _ _ _ hstart hfresh 5⟩

end Rbac
