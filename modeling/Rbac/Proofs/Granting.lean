import Rbac.Proofs.Reach

namespace Rbac

/-- What an assignment grants: all of it but its identifier and its time. -/
structure Terms where
  role : Uuid
  user : Uuid
  scope : Scope
  assignedBy : Uuid
deriving DecidableEq

def Terms.key (terms : Terms) : Uuid × Uuid × Uuid :=
  (terms.role, terms.user, terms.scope.id)

def Assignment.terms (assignment : Assignment) : Terms :=
  ⟨assignment.role, assignment.user, assignment.scope, assignment.assignedBy⟩

def AssignRole.terms (command : AssignRole) : Terms :=
  ⟨command.role, command.user, command.scope, command.assignedBy⟩

def Store.granted (store : Store) : List Terms :=
  store.assignments.rows.map (·.terms)

namespace Store

variable {pattern : Pattern} {store other : Store} {role user scopeId : Uuid}

theorem isAssigned_granted :
    store.isAssigned role user scopeId = true ↔
      ∃ terms ∈ store.granted, terms.key = (role, user, scopeId) := by
  simp only [isAssigned_iff, granted, List.mem_map, exists_exists_and_eq_and]
  rfl

/-- How a dispatched assignment ends in these records. -/
def decision (pattern : Pattern) (store : Store) (command : AssignRole) : Except Failure Unit :=
  let breaches := Validation.breaches pattern (.assignRole command)
  if breaches ≠ [] then .error (.invalid (Validation.group breaches))
  else
    match store.role? command.role with
    | none => .error (.roleMissing command.role)
    | some role =>
      if role.scope ≠ command.scope then .error .scopeMismatch
      else if store.isAssigned command.role command.user command.scope.id then
        .error .alreadyAssigned
      else .ok ()

def decided (pattern : Pattern) (store : Store) (command : AssignRole) (id : Uuid)
    (clock : Clock) : Store :=
  if (store.decision pattern command).isOk then store.putAssignment (command.assignment id clock)
  else store

theorem roles_decided (command : AssignRole) (id : Uuid) (clock : Clock) :
    (store.decided pattern command id clock).roles = store.roles := by
  rw [decided]
  split
  · rfl
  · rfl

theorem granted_decided {command : AssignRole} {id : Uuid} {clock : Clock}
    (hnew : (store.decision pattern command).isOk = true → id ∉ store.ids) :
    (store.decided pattern command id clock).granted =
      store.granted ++
        (if (store.decision pattern command).isOk then [command.terms] else []) := by
  rw [decided]
  split
  · rename_i hok
    rw [granted, rows_putAssignment (hnew hok), List.map_append]
    rfl
  · exact (List.append_nil _).symm

theorem decision_congr {command : AssignRole} (hroles : other.roles = store.roles)
    (hassigned : other.isAssigned command.role command.user command.scope.id =
      store.isAssigned command.role command.user command.scope.id) :
    other.decision pattern command = store.decision pattern command := by
  simp only [decision, role?, hroles, hassigned]

theorem decision_decided {first command : AssignRole} {id : Uuid} {clock : Clock}
    (hnew : (store.decision pattern first).isOk = true → id ∉ store.ids)
    (hkey : first.terms.key ≠ command.terms.key) :
    (store.decided pattern first id clock).decision pattern command =
      store.decision pattern command := by
  apply decision_congr (roles_decided first id clock)
  rw [Bool.eq_iff_iff, isAssigned_granted, isAssigned_granted, granted_decided hnew]
  have hapart : ∀ terms ∈ (if (store.decision pattern first).isOk then [first.terms] else []),
      terms.key ≠ (command.role, command.user, command.scope.id) := by
    intro terms hin
    split at hin
    · rw [List.mem_singleton.mp hin]
      exact hkey
    · cases hin
  constructor
  · rintro ⟨terms, hin, hfor⟩
    rcases List.mem_append.mp hin with hold | hnew
    · exact ⟨terms, hold, hfor⟩
    · exact absurd hfor (hapart terms hnew)
  · rintro ⟨terms, hin, hfor⟩
    exact ⟨terms, List.mem_append_left _ hin, hfor⟩

end Store

/-- An assignment that keeps its rules ends as it is decided, leaves the records so, and draws an
identifier if it is granted. -/
theorem UseCase.assignRole_decided {pattern : Pattern} {command : AssignRole}
    (hvalid : Validation.breaches pattern (.assignRole command) = []) (clock : Clock)
    (store : Store) (supply : Supply) :
    ∃ ended, (assignRole command clock).run store supply =
        (ended, store.decided pattern command supply.next clock,
          if (store.decision pattern command).isOk then supply.advance else supply) ∧
      ((ended.bind id).map fun _ => ()) = store.decision pattern command := by
  rw [assignRole_run]
  cases hfound : store.role? command.role with
  | none =>
    have hdecision : store.decision pattern command = .error (.roleMissing command.role) := by
      simp [Store.decision, hvalid, hfound]
    rw [Store.decided, hdecision]
    exact ⟨_, rfl, rfl⟩
  | some role =>
    by_cases hscope : role.scope = command.scope
    · cases hfree : store.isAssigned command.role command.user command.scope.id with
      | true =>
        have hdecision : store.decision pattern command = .error .alreadyAssigned := by
          simp [Store.decision, hvalid, hfound, hscope, hfree]
        rw [Store.decided, hdecision]
        simp only [hscope, ne_eq, not_true_eq_false, if_false, if_true]
        exact ⟨_, rfl, rfl⟩
      | false =>
        have hdecision : store.decision pattern command = .ok () := by
          simp [Store.decision, hvalid, hfound, hscope, hfree]
        rw [Store.decided, hdecision]
        simp only [hscope, ne_eq, not_true_eq_false, if_false, Bool.false_eq_true]
        exact ⟨_, rfl, rfl⟩
    · have hdecision : store.decision pattern command = .error .scopeMismatch := by
        simp [Store.decision, hvalid, hfound, hscope]
      rw [Store.decided, hdecision]
      simp only [hscope, ne_eq, not_false_eq_true, if_true]
      exact ⟨_, rfl, rfl⟩

namespace World

/-- A dispatched assignment ends as it is decided, leaves the records so, and draws an identifier if
it is granted. -/
theorem step_assigns (pattern : Pattern) (command : AssignRole) (clock : Clock) (world : World) :
    let ran := step pattern ⟨.assignRole command, clock, false⟩ world
    (ran.1.map fun _ => ()) = world.store.decision pattern command ∧
      ran.2.store = world.store.decided pattern command world.supply.next clock ∧
      ((world.store.decision pattern command).isOk = true →
        world.supply.next ∈ world.supply.drawnUntil ran.2.supply) := by
  intro ran
  by_cases hvalid : Validation.breaches pattern (.assignRole command) = []
  · obtain ⟨ended, hrun, hended⟩ :=
      UseCase.assignRole_decided hvalid clock world.store world.supply
    have hran : ran = _ := step_valid hvalid clock world
    have hdrawn : (world.store.decision pattern command).isOk = true →
        world.supply.next ∈ world.supply.drawnUntil
          (if (world.store.decision pattern command).isOk then world.supply.advance
            else world.supply) := by
      intro hok
      rw [if_pos hok]
      exact Supply.next_mem_drawnUntil (.refl _)
    rw [hran]
    simp only [tell_store, tell_supply, execute, Request.useCase, hrun]
    cases ended with
    | error failure => exact ⟨hended, rfl, hdrawn⟩
    | ok answer => exact ⟨hended, rfl, hdrawn⟩
  · have hdecision : world.store.decision pattern command = .error (.invalid
        (Validation.group (Validation.breaches pattern (.assignRole command)))) := if_pos hvalid
    have hran : ran = _ := step_invalid hvalid clock world
    rw [hran, Store.decided, hdecision]
    exact ⟨rfl, rfl, fun hok => by cases hok⟩

def assigning (grants : List (AssignRole × Clock)) : List Step :=
  grants.map fun (command, clock) => ⟨.assignRole command, clock, false⟩

def Entry.ending (entry : Entry) : Request × Except Failure Unit :=
  (entry.step.request, entry.result.map fun _ => ())

/-- What a run of assignments of different keys leaves, said of the records that it started from. -/
structure Granted (pattern : Pattern) (start : Store) (commands : List AssignRole)
    (entries : List Entry) (after : Store) : Prop where
  endings : entries.map (·.ending) =
    commands.map fun command => (.assignRole command, start.decision pattern command)
  roles : after.roles = start.roles
  granted : after.granted = start.granted ++
    (commands.filter fun command => (start.decision pattern command).isOk).map (·.terms)

/-- An assignment first, then others of different keys: they are decided as if it was not there. -/
theorem Granted.cons {pattern : Pattern} {start next final : Store} {command : AssignRole}
    {commands : List AssignRole} {entry : Entry} {entries : List Entry} {id : Uuid} {clock : Clock}
    (hrest : Granted pattern next commands entries final)
    (hnext : next = start.decided pattern command id clock)
    (hnew : (start.decision pattern command).isOk = true → id ∉ start.ids)
    (hkeys : ∀ other ∈ commands, command.terms.key ≠ other.terms.key)
    (hentry : entry.ending = (.assignRole command, start.decision pattern command)) :
    Granted pattern start (command :: commands) (entry :: entries) final := by
  have hsame : ∀ other ∈ commands, next.decision pattern other = start.decision pattern other := by
    intro other ho
    rw [hnext]
    exact Store.decision_decided hnew (hkeys other ho)
  refine ⟨?_, ?_, ?_⟩
  · rw [List.map_cons, List.map_cons, hentry, hrest.endings]
    congr 1
    apply List.map_congr_left
    intro other ho
    rw [hsame other ho]
  · rw [hrest.roles, hnext, Store.roles_decided]
  · have hkept : commands.filter (fun other => (next.decision pattern other).isOk) =
        commands.filter fun other => (start.decision pattern other).isOk := by
      apply List.filter_congr
      intro other ho
      rw [hsame other ho]
    rw [hrest.granted, hkept, hnext, Store.granted_decided hnew, List.append_assoc,
      List.filter_cons]
    split
    · rfl
    · rfl

/-- Assignments of different keys are each decided by the records that the first one finds. -/
theorem run_grants {pattern : Pattern} {grants : List (AssignRole × Clock)} {world : World}
    (hkeys : (grants.map (·.1.terms.key)).Nodup)
    (hfresh : Fresh (drawn pattern (assigning grants) world) world.store.ids) :
    Granted pattern world.store (grants.map (·.1)) (history pattern (assigning grants) world)
      (after pattern (assigning grants) world).store := by
  -- From the front: the records that the others find are those after the first assignment, by
  -- which they are decided as by the records before it.
  induction grants generalizing world with
  | nil => exact ⟨rfl, rfl, (List.append_nil _).symm⟩
  | cons first rest ih =>
    obtain ⟨command, clock⟩ := first
    obtain ⟨hfirst, hrest⟩ := List.nodup_cons.mp hkeys
    let step : Step := ⟨.assignRole command, clock, false⟩
    have hdrawn := drawn_append pattern [step] (assigning rest) world
    rw [List.singleton_append] at hdrawn
    have hfresh' : Fresh (drawn pattern (step :: assigning rest) world) world.store.ids := hfresh
    rw [hdrawn] at hfresh'
    have hlater := hfresh'.rest (step_ids pattern step world)
    obtain ⟨hending, hstore, hnew⟩ := step_assigns pattern command clock world
    have hapart : ∀ other ∈ rest.map (·.1), command.terms.key ≠ other.terms.key := by
      intro other ho hkey
      obtain ⟨grant, hgrant, rfl⟩ := List.mem_map.mp ho
      exact hfirst (List.mem_map.mpr ⟨grant, hgrant, hkey.symm⟩)
    exact (ih hrest ⟨hlater.distinct, hlater.absent_left⟩).cons hstore
      (fun hok => hfresh'.first.absent _ (hnew hok)) hapart (congrArg (Prod.mk _) hending)

end World

namespace Store

variable {store other : Store} {user scopeId : Uuid}

theorem isAssigned_congr (hgranted : other.granted.Perm store.granted) (role : Uuid) :
    other.isAssigned role user scopeId = true ↔ store.isAssigned role user scopeId = true := by
  simp only [isAssigned_granted, hgranted.mem_iff]

theorem allows_congr (hroles : other.roles = store.roles)
    (hgranted : other.granted.Perm store.granted) (action : Text) :
    UseCase.allows (other.grantsOf user scopeId) action =
      UseCase.allows (store.grantsOf user scopeId) action := by
  rw [Bool.eq_iff_iff, UseCase.allows_iff, UseCase.allows_iff]
  simp only [isAssigned_congr hgranted, role?, hroles]

end Store

/-- Dispatched assignments of different keys end alike in any order, and after them the same is
granted, every check is answered alike, and every list of what a user may do has the same elements.
The two runs start from the same records, at whatever times and with whatever supply of new
identifiers. -/
theorem grants_in_any_order (pattern : Pattern) {world other : World}
    {grants others : List (AssignRole × Clock)} (hstore : other.store = world.store)
    (horder : (others.map (·.1)).Perm (grants.map (·.1)))
    (hkeys : (grants.map (·.1.terms.key)).Nodup)
    (hfresh : Fresh (World.drawn pattern (World.assigning grants) world) world.store.ids)
    (hfreshOther : Fresh (World.drawn pattern (World.assigning others) other) other.store.ids) :
    let one := World.after pattern (World.assigning grants) world
    let two := World.after pattern (World.assigning others) other
    ((World.history pattern (World.assigning others) other).map (·.ending)).Perm
        ((World.history pattern (World.assigning grants) world).map (·.ending)) ∧
      two.store.granted.Perm one.store.granted ∧
      (∀ query : CheckPermission, ∃ allowed,
        one.Answers (.checkPermission query)
          (.check ⟨allowed, query.user, query.scopeId, query.permission⟩) ∧
        two.Answers (.checkPermission query)
          (.check ⟨allowed, query.user, query.scopeId, query.permission⟩)) ∧
      ∀ query : UserPermissions, ∃ actions actions',
        one.Answers (.userPermissions query) (.actions actions) ∧
        two.Answers (.userPermissions query) (.actions actions') ∧
        ∀ action, action ∈ actions ↔ action ∈ actions' := by
  intro one two
  have hkeysOther : (others.map (·.1.terms.key)).Nodup := by
    have hperm := horder.map (·.terms.key)
    rw [List.map_map, List.map_map] at hperm
    exact hperm.nodup_iff.mpr hkeys
  have hone := World.run_grants hkeys hfresh
  have htwo := World.run_grants hkeysOther hfreshOther
  rw [hstore] at htwo
  have hroles : two.store.roles = one.store.roles := htwo.roles.trans hone.roles.symm
  have hgranted : two.store.granted.Perm one.store.granted := by
    rw [htwo.granted, hone.granted]
    exact ((horder.filter _).map _).append_left _
  have hallows : ∀ user scopeId action, UseCase.allows (two.store.grantsOf user scopeId) action =
      UseCase.allows (one.store.grantsOf user scopeId) action :=
    fun _ _ => Store.allows_congr hroles hgranted
  refine ⟨?_, hgranted, ?_, ?_⟩
  · rw [htwo.endings, hone.endings]
    exact horder.map _
  · intro query
    refine ⟨one.checked query, one.answers_check query, ?_⟩
    have hchecked : one.checked query = two.checked query := (hallows _ _ _).symm
    rw [hchecked]
    exact two.answers_check query
  · intro query
    refine ⟨_, _, one.answers_listing query, two.answers_listing query, ?_⟩
    intro action
    rw [UseCase.mem_actionsOf, UseCase.mem_actionsOf, hallows]

/-- Assignments of which two are granted. Of the others one is held already, one is for another
scope, one names no role that exists, and one does not say who makes it. -/
def newcomers : List (AssignRole × Clock) :=
  let reader := Uuid.ofNat 1
  let scope : Scope := ⟨.organization, Uuid.ofNat 7⟩
  [(⟨reader, Uuid.ofNat 6, scope, Uuid.ofNat 5⟩, .epoch),
    (⟨reader, Uuid.ofNat 4, scope, Uuid.ofNat 5⟩, .epoch),
    (⟨reader, Uuid.ofNat 8, ⟨.workspace, Uuid.ofNat 7⟩, Uuid.ofNat 5⟩, .epoch),
    (⟨Uuid.ofNat 9, Uuid.ofNat 6, scope, Uuid.ofNat 5⟩, .epoch),
    (⟨reader, Uuid.ofNat 10, scope, .nil⟩, .epoch),
    (⟨reader, Uuid.ofNat 12, scope, Uuid.ofNat 5⟩, .epoch)]

theorem newcomers_in_any_order :
    let pattern := Pattern.star false (.one .dot)
    let other : World := { heldReader with supply := .after 200 }
    let one := World.after pattern (World.assigning newcomers) heldReader
    let two := World.after pattern (World.assigning newcomers.reverse) other
    other.store = heldReader.store ∧
      (newcomers.reverse.map (·.1)).Perm (newcomers.map (·.1)) ∧
      (newcomers.map (·.1.terms.key)).Nodup ∧
      Fresh (World.drawn pattern (World.assigning newcomers) heldReader) heldReader.store.ids ∧
      Fresh (World.drawn pattern (World.assigning newcomers.reverse) other) other.store.ids ∧
      ((World.history pattern (World.assigning newcomers.reverse) other).map (·.ending)).Perm
        ((World.history pattern (World.assigning newcomers) heldReader).map (·.ending)) ∧
      two.store.granted.Perm one.store.granted ∧
      ∀ query : CheckPermission, ∃ allowed,
        one.Answers (.checkPermission query)
          (.check ⟨allowed, query.user, query.scopeId, query.permission⟩) ∧
        two.Answers (.checkPermission query)
          (.check ⟨allowed, query.user, query.scopeId, query.permission⟩) := by
  intro pattern other one two
  have horder : (newcomers.reverse.map (·.1)).Perm (newcomers.map (·.1)) :=
    newcomers.reverse_perm.map _
  have hkeys : (newcomers.map (·.1.terms.key)).Nodup := by decide +kernel
  have hfresh : Fresh (World.drawn pattern (World.assigning newcomers) heldReader)
      heldReader.store.ids := by decide +kernel
  have hother : Fresh (World.drawn pattern (World.assigning newcomers.reverse) other)
      other.store.ids := by decide +kernel
  have hstore : other.store = heldReader.store := rfl
  obtain ⟨hendings, hgranted, hchecks, _⟩ :=
    grants_in_any_order pattern hstore horder hkeys hfresh hother
  exact ⟨hstore, horder, hkeys, hfresh, hother, hendings, hgranted, hchecks⟩

end Rbac
