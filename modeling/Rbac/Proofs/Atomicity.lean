import Rbac.Proofs.Integrity
import Rbac.Proofs.Rules

namespace Rbac

/-- What a write that succeeds has done to the records, and the change that it tells of: one record
is written or gone, and every other one is what it was. -/
inductive Wrote (before after : Store) : Request → Change → Prop where
  | role {command : CreateRole} (role : Role)
      (written : Table.Puts role before.roles after.roles)
      (assignments : after.assignments = before.assignments) (name : role.name = command.name)
      (scope : role.scope = command.scope) (description : role.description = command.description)
      (actions : role.actions = command.permissions) :
      Wrote before after (.createRole command) (.roleCreated role.id role.name role.scope)
  | update {command : UpdateRole} (old role : Role) (found : before.role? command.id = some old)
      (written : Table.Puts role before.roles after.roles)
      (assignments : after.assignments = before.assignments) (id : role.id = command.id)
      (scope : role.scope = old.scope) (system : role.isSystem = old.isSystem)
      (createdAt : role.createdAt = old.createdAt) (name : role.name = command.name)
      (description : role.description = command.description)
      (actions : ∀ action, action ∈ role.actions ↔ action ∈ command.permissions) :
      Wrote before after (.updateRole command) (.roleUpdated role.id role.name)
  | deletion (role : Role) (found : before.role? role.id = some role)
      (erased : Table.Erases role.id before.roles after.roles)
      (assignments : after.assignments = before.assignments) :
      Wrote before after (.deleteRole role.id) (.roleDeleted role.id)
  | assignment {command : AssignRole} (assignment : Assignment)
      (written : Table.Puts assignment before.assignments after.assignments)
      (roles : after.roles = before.roles) (role : assignment.role = command.role)
      (user : assignment.user = command.user) (scope : assignment.scope = command.scope)
      (assignedBy : assignment.assignedBy = command.assignedBy) :
      Wrote before after (.assignRole command)
        (.assignmentCreated assignment.id assignment.role assignment.user assignment.scope
          assignment.assignedBy)
  | revocation {command : RevokeRole} (assignment : Assignment)
      (stored : assignment ∈ before.assignments.rows)
      (asked : assignment.key = (command.role, command.user, command.scopeId))
      (erased : Table.Erases assignment.id before.assignments after.assignments)
      (roles : after.roles = before.roles) :
      Wrote before after (.revokeRole command)
        (.assignmentRevoked assignment.id assignment.role assignment.user assignment.scope)

/-- The request succeeds: one commit, and for a write one event, that of what is written. -/
def Succeeds (request : Request) (clock : Clock) (before after : World)
    (result : Except Failure (Outcome Answer)) : Prop :=
  after.commits = before.commits + 1 ∧ after.rollbacks = before.rollbacks ∧
    if request.asks then
      ∃ answer, result = .ok (.query answer) ∧ after.store = before.store ∧
        after.published = before.published
    else
      ∃ answer change, result = .ok (.written answer [⟨request.toldAt clock, change⟩]) ∧
        after.published = before.published ++ [⟨request.toldAt clock, change⟩] ∧
        Wrote before.store after.store request change

/-- The request breaks a rule of its fields, and no unit of work is begun. -/
def TurnedAway (pattern : Pattern) (request : Request) (before after : World)
    (result : Except Failure (Outcome Answer)) : Prop :=
  Validation.breaches pattern request ≠ [] ∧ (∃ errors, result = .error (.invalid errors)) ∧
    after.commits = before.commits ∧ after.rollbacks = before.rollbacks ∧
    after.published = before.published ∧ after.store = before.store

/-- The use case says no: one rollback, and the records are what they were. -/
def RolledBack (before after : World) (result : Except Failure (Outcome Answer)) : Prop :=
  (∃ failure, result = .error failure ∧ failure.isDenial = true) ∧
    after.commits = before.commits ∧ after.rollbacks = before.rollbacks + 1 ∧
    after.published = before.published ∧ after.store = before.store

namespace Effect

variable {clock : Clock} {store after : Store} {supply later : Supply} {request : Request}

/-- Without blank actions an update never stops half way. -/
theorem not_half {command : UpdateRole} {old role : Role} {failure : Failure}
    (hb : ∀ action ∈ command.permissions, Text.isBlank action = false)
    (hs : old.isSystem = false)
    (hstopped : ((command.renamed old clock).sync command.permissions (clock.past 2)).run supply =
      ((.error failure, role), later)) : False := by
  have hrenamed : (command.renamed old clock).isSystem = false := hs
  rw [Role.sync_succeeds (clock.past 2) supply hrenamed hb] at hstopped
  simp at hstopped

theorem of_error {pattern : Pattern} {failure : Failure}
    (h : Effect clock store supply request (.error failure) after later)
    (hvalid : Validation.breaches pattern request = []) :
    failure.isDenial = true ∧ after = store := by
  cases h with
  | refused hdenial _ => exact ⟨hdenial, rfl⟩
  | halfUpdated _ _ hs hstopped =>
    exact (not_half (Validation.updateRole_blank hvalid) hs hstopped).elim

theorem of_ok {outcome : Outcome Answer}
    (h : Effect clock store supply request (.ok outcome) after later) :
    if request.asks then (∃ answer, outcome = .query answer) ∧ after = store
    else ∃ answer change, outcome = .written answer [⟨request.toldAt clock, change⟩] ∧
      Wrote store after request change := by
  cases h with
  | answered answer hasks =>
    rw [if_pos hasks]
    exact ⟨⟨answer, rfl⟩, rfl⟩
  | @created command role _ _ hadd =>
    obtain ⟨hrole, _⟩ := created_role hadd
    refine ⟨_, _, rfl, .role role (store.roles.puts_put role) rfl ?_ ?_ ?_ ?_⟩
    · rw [hrole]; rfl
    · rw [hrole]; rfl
    · rw [hrole]; rfl
    · rw [hrole, Role.actions_extend, Permission.series_actions]
      rfl
  | @updated command old role _ _ hfound _ hs hsync =>
    have hid : old.id = command.id := (Table.find_iff.mp hfound).2
    obtain ⟨new, hrole, _⟩ := synced_role hs hsync
    refine ⟨_, _, rfl, .update old role hfound (store.roles.puts_put role) rfl ?_ ?_ ?_ ?_ ?_ ?_ ?_⟩
    · rw [hrole, ← hid]; rfl
    · rw [hrole]; rfl
    · rw [hrole]; rfl
    · rw [hrole]; rfl
    · rw [hrole]; rfl
    · rw [hrole]; rfl
    · intro action
      exact synced_actions hs hsync
  | @deleted role hfound _ _ =>
    exact ⟨_, _, rfl, .deletion role hfound (store.roles.erases_erase role.id) rfl⟩
  | @assigned command =>
    let assignment := command.assignment supply.next clock
    exact ⟨_, _, rfl, .assignment assignment (store.assignments.puts_put assignment) rfl rfl rfl rfl
      rfl⟩
  | @revoked command assignment hfound =>
    have hstored := List.mem_of_find?_eq_some hfound
    have hasked := Assignment.isFor_iff.mp (List.find?_some hfound)
    exact ⟨_, _, rfl, .revocation assignment hstored hasked
      (store.assignments.erases_erase assignment.id) rfl⟩

end Effect

theorem Succeeds.is_ok {request : Request} {clock : Clock} {before after : World}
    {result : Except Failure (Outcome Answer)} (h : Succeeds request clock before after result) :
    ∃ outcome, result = .ok outcome := by
  have hends := h.2.2
  split at hends
  · obtain ⟨answer, hresult, _⟩ := hends
    exact ⟨_, hresult⟩
  · obtain ⟨answer, change, hresult, _⟩ := hends
    exact ⟨_, hresult⟩

theorem TurnedAway.not_succeeds {pattern : Pattern} {request : Request} {clock : Clock}
    {before after : World} {result : Except Failure (Outcome Answer)}
    (h : TurnedAway pattern request before after result) :
    ¬ Succeeds request clock before after result := by
  intro hs
  obtain ⟨_, ⟨errors, hfailed⟩, _⟩ := h
  obtain ⟨outcome, ho⟩ := hs.is_ok
  rw [hfailed] at ho
  cases ho

theorem RolledBack.not_succeeds {request : Request} {clock : Clock} {before after : World}
    {result : Except Failure (Outcome Answer)} (h : RolledBack before after result) :
    ¬ Succeeds request clock before after result := by
  intro hs
  obtain ⟨⟨failure, hfailed, _⟩, _⟩ := h
  obtain ⟨outcome, ho⟩ := hs.is_ok
  rw [hfailed] at ho
  cases ho

theorem TurnedAway.not_rolled_back {pattern : Pattern} {request : Request} {before after : World}
    {result : Except Failure (Outcome Answer)}
    (h : TurnedAway pattern request before after result) : ¬ RolledBack before after result := by
  rintro ⟨⟨failure, hfailed, hdenial⟩, _⟩
  obtain ⟨_, ⟨errors, hinvalid⟩, _⟩ := h
  rw [hinvalid] at hfailed
  cases hfailed
  cases hdenial

theorem succeeds_of_effect {request : Request} {clock : Clock} {before : World}
    {outcome : Outcome Answer} {store : Store} {supply : Supply}
    (h : Effect clock before.store before.supply request (.ok outcome) store supply) :
    Succeeds request clock before
      ((before.settled (.ok outcome) store supply).tell (World.told (.ok outcome)))
      (.ok outcome) := by
  have hends := h.of_ok
  refine ⟨rfl, rfl, ?_⟩
  split
  · rename_i hasks
    rw [if_pos hasks] at hends
    obtain ⟨⟨answer, rfl⟩, rfl⟩ := hends
    exact ⟨answer, rfl, rfl, by simp [World.told, Outcome.query]⟩
  · rename_i hwrites
    rw [if_neg hwrites] at hends
    obtain ⟨answer, change, rfl, hwrote⟩ := hends
    exact ⟨answer, change, rfl, rfl, hwrote⟩

theorem turned_away_of_breach {pattern : Pattern} {request : Request}
    (h : Validation.breaches pattern request ≠ []) (clock : Clock) (before : World) :
    TurnedAway pattern request before (World.step pattern ⟨request, clock, false⟩ before).2
      (World.step pattern ⟨request, clock, false⟩ before).1 := by
  rw [World.step_invalid h clock before]
  exact ⟨h, ⟨_, rfl⟩, rfl, rfl, rfl, rfl⟩

/-- A unit of work that is begun succeeds or is rolled back. -/
theorem succeeds_or_rolled_back {pattern : Pattern} {request : Request}
    (h : Validation.breaches pattern request = []) (clock : Clock) (before : World) :
    Succeeds request clock before (World.step pattern ⟨request, clock, false⟩ before).2
        (World.step pattern ⟨request, clock, false⟩ before).1 ∨
      RolledBack before (World.step pattern ⟨request, clock, false⟩ before).2
        (World.step pattern ⟨request, clock, false⟩ before).1 := by
  obtain ⟨result, store, supply, hexecute, heffect⟩ := World.execute_effect request clock before
  rw [World.step_valid h, hexecute]
  cases result with
  | ok outcome => exact Or.inl (succeeds_of_effect heffect)
  | error failure =>
    obtain ⟨hdenial, rfl⟩ := heffect.of_error h
    exact Or.inr ⟨⟨failure, rfl, hdenial⟩, rfl, rfl, by simp [World.told], rfl⟩

/-- A dispatched request ends in exactly one of three ways, whatever the records are: it succeeds
and its events are told, it is turned away by the rules of its fields, or it is rolled back. In the
last two nothing is told and every record is what it was. -/
theorem dispatch_all_or_nothing (pattern : Pattern) (request : Request) (clock : Clock)
    (before : World) :
    let result := (World.step pattern ⟨request, clock, false⟩ before).1
    let after := (World.step pattern ⟨request, clock, false⟩ before).2
    (Succeeds request clock before after result ∧ ¬ TurnedAway pattern request before after result ∧
        ¬ RolledBack before after result) ∨
      (TurnedAway pattern request before after result ∧
        ¬ Succeeds request clock before after result ∧
        ¬ RolledBack before after result) ∨
      (RolledBack before after result ∧ ¬ Succeeds request clock before after result ∧
        ¬ TurnedAway pattern request before after result) := by
  intro result after
  by_cases hvalid : Validation.breaches pattern request = []
  · have hkept : ¬ TurnedAway pattern request before after result := fun h => h.1 hvalid
    rcases succeeds_or_rolled_back hvalid clock before with hsucceeds | hrolled
    · exact Or.inl ⟨hsucceeds, hkept, fun h => h.not_succeeds hsucceeds⟩
    · exact Or.inr (Or.inr ⟨hrolled, hrolled.not_succeeds, hkept⟩)
  · have hturned : TurnedAway pattern request before after result :=
      turned_away_of_breach hvalid clock before
    exact Or.inr (Or.inl ⟨hturned, hturned.not_succeeds, hturned.not_rolled_back⟩)

end Rbac
