import Rbac.Proofs.Integrity
import Rbac.Proofs.Naming
import Rbac.Proofs.Rules

namespace Rbac

/-- How a request ends, as far as callers tell endings apart. -/
inductive Verdict where
  | success
  | invalid
  | notFound
  | conflict
  | domain
  /-- Any other failure. -/
  | fault
deriving DecidableEq

def Verdict.of {α : Type} : Except Failure α → Verdict
  | .ok _ => .success
  | .error (.invalid _) => .invalid
  | .error (.notFound ..) => .notFound
  | .error (.conflict _) => .conflict
  | .error (.domain _) => .domain
  | .error _ => .fault

theorem Scope.ne_iff {a b : Scope} : a ≠ b ↔ a.type ≠ b.type ∨ a.id ≠ b.id := by
  cases a
  cases b
  simp [imp_iff_not_or]

namespace Store

/-- The verdict of the records on a request that keeps its rules. -/
def verdict (store : Store) : Request → Verdict
  | .createRole command =>
    if ∃ role ∈ store.roles.rows, role.name = command.name ∧ role.scope = command.scope then
      .conflict
    else if ¬ command.permissions.Nodup then .domain
    else .success
  | .updateRole command =>
    match store.role? command.id with
    | none => .notFound
    | some role =>
      if ∃ other ∈ store.roles.rows,
          other.name = command.name ∧ other.scope = role.scope ∧ other.id ≠ role.id then
        .conflict
      else if role.isSystem then .domain
      else .success
  | .deleteRole id =>
    match store.role? id with
    | none => .notFound
    | some role =>
      if (∃ assignment ∈ store.assignments.rows, assignment.role = id) ∨ role.isSystem then .domain
      else .success
  | .assignRole command =>
    match store.role? command.role with
    | none => .notFound
    | some role =>
      if role.scope.type ≠ command.scope.type ∨ role.scope.id ≠ command.scope.id then .domain
      else if ∃ assignment ∈ store.assignments.rows,
          assignment.key = (command.role, command.user, command.scope.id) then .conflict
      else .success
  | .revokeRole command =>
    if ∃ assignment ∈ store.assignments.rows,
        assignment.key = (command.role, command.user, command.scopeId) then .success
    else .notFound
  | .getRole id => if (store.role? id).isNone then .notFound else .success
  | .listRoles _ | .checkPermission _ | .userPermissions _ => .success

variable {store : Store}

theorem countByRole_pos {id : Uuid} :
    0 < store.countByRole id ↔ ∃ assignment ∈ store.assignments.rows, assignment.role = id := by
  simp [countByRole, List.countP_pos_iff]

end Store

namespace UseCase

/-- The verdict on a run: failures of the transaction and of its answer count alike. -/
def verdict (ran : Except Failure (Except Failure (Outcome Answer)) × Store × Supply) : Verdict :=
  .of (ran.1.bind id)

variable {pattern : Pattern} (clock : Clock) (store : Store) (supply : Supply)

theorem createRole_verdict {command : CreateRole}
    (h : (Request.createRole command).KeepsRules pattern) :
    verdict ((createRole command clock).run store supply) =
      store.verdict (.createRole command) := by
  have hvisible : command.permissions.any Text.isBlank = false := by
    simpa using fun action ha => (h.2.2.2 action ha).visible
  have htaken : store.nameTaken command.name command.scope none = true ↔
      ∃ role ∈ store.roles.rows, role.name = command.name ∧ role.scope = command.scope := by
    simp [Store.nameTaken_iff]
  rw [createRole_run]
  simp only [Store.verdict, htaken]
  split
  · rfl
  · rcases hadd : ((command.bare supply.next clock).addEach (clock.past 2) command.permissions).run
      supply.advance with ⟨⟨failure | _, role⟩, later⟩
    · obtain ⟨message, rfl⟩ := Role.addEach_error hadd
      have hrepeated : ¬ command.permissions.Nodup := by
        intro hu
        have hadded :=
          Role.addEach_visible (command.bare supply.next clock) command.permissions (clock.past 2)
          supply.advance rfl hu (fun _ _ hin => by cases hin)
        simp [hadd, hvisible] at hadded
      rw [if_pos hrepeated]
      rfl
    · have hdistinct := (Role.addEach_distinct hadd).1
      rw [if_neg (not_not_intro hdistinct)]
      rfl

theorem updateRole_verdict {command : UpdateRole}
    (h : (Request.updateRole command).KeepsRules pattern) :
    verdict ((updateRole command clock).run store supply) =
      store.verdict (.updateRole command) := by
  rw [updateRole_run]
  simp only [Store.verdict]
  cases hfound : store.role? command.id with
  | none => rfl
  | some role =>
    have htaken : store.nameTaken command.name role.scope (some role.id) = true ↔
        ∃ other ∈ store.roles.rows,
          other.name = command.name ∧ other.scope = role.scope ∧ other.id ≠ role.id := by
      simp [Store.nameTaken_iff]
    simp only [htaken]
    split
    · rfl
    · split
      · rfl
      · rename_i hopen
        have hrenamed : (command.renamed role clock).isSystem = false := eq_false_of_ne_true hopen
        rw [Role.sync_succeeds (clock.past 2) supply hrenamed
          fun action ha => (h.2.2.2 action ha).visible]
        rfl

theorem deleteRole_verdict (id : Uuid) :
    verdict ((deleteRole id clock).run store supply) = store.verdict (.deleteRole id) := by
  rw [deleteRole_run]
  simp only [Store.verdict]
  cases hfound : store.role? id with
  | none => rfl
  | some role =>
    obtain ⟨_, rfl⟩ := Table.find_iff.mp hfound
    simp only [Store.countByRole_pos]
    by_cases hheld : ∃ assignment ∈ store.assignments.rows, assignment.role = role.id
    · rw [if_pos hheld, if_pos (Or.inl hheld)]
      rfl
    · by_cases hs : role.isSystem = true
      · rw [if_neg hheld, if_pos hs, if_pos (Or.inr hs)]
        rfl
      · rw [if_neg hheld, if_neg hs, if_neg (not_or.mpr ⟨hheld, hs⟩)]
        rfl

theorem assignRole_verdict (command : AssignRole) :
    verdict ((assignRole command clock).run store supply) =
      store.verdict (.assignRole command) := by
  rw [assignRole_run]
  simp only [Store.verdict]
  cases hfound : store.role? command.role with
  | none => rfl
  | some role =>
    simp only [Scope.ne_iff, Store.isAssigned_iff]
    split
    · rfl
    · split
      · rfl
      · rfl

theorem revokeRole_verdict (command : RevokeRole) :
    verdict ((revokeRole command clock).run store supply) =
      store.verdict (.revokeRole command) := by
  rw [revokeRole_run]
  simp only [Store.verdict, Store.grantOf?]
  cases hfound : store.assignments.rows.find?
      (·.isFor command.role command.user command.scopeId) with
  | none =>
    have hnone : ¬ ∃ assignment ∈ store.assignments.rows,
        assignment.key = (command.role, command.user, command.scopeId) := by
      rintro ⟨assignment, hin, hkey⟩
      exact List.find?_eq_none.mp hfound assignment hin (Assignment.isFor_iff.mpr hkey)
    rw [if_neg hnone]
    rfl
  | some assignment =>
    have hfor := List.find?_some hfound
    rw [if_pos ⟨assignment, List.mem_of_find?_eq_some hfound, Assignment.isFor_iff.mp hfor⟩]
    rfl

theorem getRole_verdict (id : Uuid) :
    verdict ((getRole id).run store supply) = store.verdict (.getRole id) := by
  rw [getRole_run]
  simp only [Store.verdict]
  cases store.role? id with
  | none => rfl
  | some role => rfl

/-- The verdict on a request that keeps its rules is that of the records. -/
theorem useCase_verdict {request : Request} (h : request.KeepsRules pattern) :
    verdict ((request.useCase clock).run store supply) = store.verdict request := by
  cases request with
  | createRole command => exact createRole_verdict clock store supply h
  | updateRole command => exact updateRole_verdict clock store supply h
  | deleteRole id => exact deleteRole_verdict clock store supply id
  | assignRole command => exact assignRole_verdict clock store supply command
  | revokeRole command => exact revokeRole_verdict clock store supply command
  | getRole id => exact getRole_verdict store supply id
  | listRoles scope => exact congrArg verdict (listRoles_run store supply scope)
  | checkPermission query => exact congrArg verdict (checkPermission_run store supply query)
  | userPermissions query => exact congrArg verdict (userPermissions_run store supply query)

end UseCase

/-- Every dispatched request ends as its fields and the records say, whatever the records are and
whatever identifiers are drawn. -/
theorem dispatched_verdict (pattern : Pattern) (request : Request) (clock : Clock) (world : World) :
    Verdict.of (World.step pattern ⟨request, clock, false⟩ world).1 =
      if request.KeepsRules pattern then world.store.verdict request else .invalid := by
  split
  · rename_i hkept
    rw [World.step_valid (Validation.breaches_nil_iff.mpr hkept),
      ← UseCase.useCase_verdict clock world.store world.supply hkept]
    simp only [World.execute, UseCase.verdict]
    rcases (request.useCase clock).run world.store world.supply with ⟨_ | _, _⟩
    · rfl
    · rfl
  · rename_i hbroken
    rw [World.step_invalid (mt Validation.breaches_nil_iff.mp hbroken)]
    rfl

/-- A name that is taken comes before a repeated action. -/
example : heldReader.store.verdict (.createRole ⟨"reader", ⟨.organization, Uuid.ofNat 7⟩, none,
    ["doc:read", "doc:read"]⟩) = .conflict := by decide +kernel

end Rbac
