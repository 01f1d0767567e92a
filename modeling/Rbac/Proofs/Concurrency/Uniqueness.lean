import Rbac.Proofs.Concurrency.Contention

namespace Rbac

def AssignRole.key (command : AssignRole) : Uuid × Uuid × Uuid :=
  (command.role, command.user, command.scope.id)

end Rbac

namespace Rbac.Sql

/-- What a unique index holds of a row: of an assignment its key, of a role its name and scope. -/
inductive Entry where
  | assigned (role user scopeId : Uuid)
  | named (id : Uuid) (name : Text) (scopeId : Uuid) (scopeType : Text)
deriving DecidableEq

/-- Whether an index refuses the one entry beside the other. A role does not clash with itself. -/
def Entry.Clashes : Entry → Entry → Prop
  | .assigned role user scopeId, .assigned role' user' scopeId' =>
    role = role' ∧ user = user' ∧ scopeId = scopeId'
  | .named id name scopeId scopeType, .named id' name' scopeId' scopeType' =>
    id ≠ id' ∧ name = name' ∧ scopeId = scopeId' ∧ scopeType = scopeType'
  | _, _ => False

instance : DecidableRel Entry.Clashes := fun a b => by
  cases a <;> cases b <;> unfold Entry.Clashes <;> infer_instance

theorem Entry.Clashes.symm {a b : Entry} (h : a.Clashes b) : b.Clashes a := by
  cases a <;> cases b
  · exact ⟨h.1.symm, h.2.1.symm, h.2.2.symm⟩
  · exact h
  · exact h
  · exact ⟨h.1.symm, h.2.1.symm, h.2.2.1.symm, h.2.2.2.symm⟩

/-- The entry that a write makes. A role that is renamed keeps the scope it has in the database. -/
def Statement.entry? (scopes : Uuid → Scope) : Statement → Option Entry
  | .insertAssignment row => some (.assigned row.role row.user row.scopeId)
  | .insertRole row => some (.named row.id row.name row.scopeId row.scopeType)
  | .updateRole id name _ _ => some (.named id name (scopes id).id (scopes id).type.text)
  | _ => none

/-- Whether two writes make entries that no index holds together. -/
def Statement.Collides (scopes : Uuid → Scope) (a b : Statement) : Prop :=
  ∃ entry ∈ a.entry? scopes, ∃ other ∈ b.entry? scopes, entry.Clashes other

instance (scopes : Uuid → Scope) : DecidableRel (Statement.Collides scopes) := fun a b =>
  inferInstanceAs
    (Decidable (∃ entry ∈ a.entry? scopes, ∃ other ∈ b.entry? scopes, entry.Clashes other))

theorem Statement.Collides.symm {scopes : Uuid → Scope} {a b : Statement}
    (h : a.Collides scopes b) : b.Collides scopes a := by
  obtain ⟨entry, hentry, other, hother, hclash⟩ := h
  exact ⟨other, hother, entry, hentry, hclash.symm⟩

/-- Whether a role that is selected by its id is the one that was asked for. -/
def Exchange.Selects : Exchange → Prop
  | ⟨.selectRole id, .ok rows⟩ => ∀ row ∈ (rows : List RoleRow), row.id = id
  | _ => True

instance : DecidablePred Exchange.Selects
  | ⟨.selectRole id, .ok rows⟩ =>
    decidable_of_iff (∀ row ∈ (rows : List RoleRow), row.id = id) Iff.rfl
  | ⟨.selectRole _, .error _⟩ | ⟨.ping, _⟩ | ⟨.selectRolesIn _, _⟩ | ⟨.findRoleName .., _⟩
  | ⟨.insertRole _, _⟩ | ⟨.updateRole .., _⟩ | ⟨.deleteRole _, _⟩ | ⟨.selectPermissions _, _⟩
  | ⟨.insertPermissions _, _⟩ | ⟨.trimPermissions .., _⟩ | ⟨.selectAssignment _, _⟩
  | ⟨.selectAssignmentOf .., _⟩ | ⟨.selectAssignmentsOf .., _⟩ | ⟨.findAssignment .., _⟩
  | ⟨.countAssignments _, _⟩ | ⟨.insertAssignment _, _⟩ | ⟨.deleteAssignment _, _⟩ =>
    isTrue trivial

/-- How a database with unique indexes answers: with a violation, where a write would make an entry
that clashes with one of another session, committed or still pending. A role that is selected is the
one that was asked for. -/
structure UniqueIndexes {ι : Type} (scopes : Uuid → Scope) (race : Race ι) (i : ι)
    (exchange : Exchange) : Prop where
  violation : race.Blocked (Statement.Collides scopes) i exchange.statement →
    exchange.error? = some .uniqueViolation
  selection : exchange.Selects

instance {ι : Type} [Fintype ι] [DecidableEq ι] (scopes : Uuid → Scope) (race : Race ι) (i : ι)
    (exchange : Exchange) : Decidable (UniqueIndexes scopes race i exchange) :=
  decidable_of_iff (_ ∧ exchange.Selects) ⟨fun h => ⟨h.1, h.2⟩, fun h => ⟨h.violation, h.selection⟩⟩

section Outcomes

variable {ι : Type} [DecidableEq ι] {scopes : Uuid → Scope} {pattern : Pattern}
  {entrants : ι → Entrant} {schedule : List ι}

/-- Two parties that have committed writes that collide are one. -/
theorem Race.Lawful.same_of_collision
    (hlawful : Race.Lawful (UniqueIndexes scopes) schedule (Race.start pattern entrants)) {i j : ι}
    {a b : Statement} (ha : a ∈ ((Race.start pattern entrants).after schedule i).committed)
    (hb : b ∈ ((Race.start pattern entrants).after schedule j).committed)
    (hcollide : i ≠ j → a.Collides scopes b) : i = j := by
  have hexclusive := hlawful.exclusive (fun _ _ => Statement.Collides.symm)
    fun _ _ _ hrule => hrule.violation
  by_contra hne
  exact hexclusive i j hne a (Party.live_of_committed ha) b (Party.live_of_committed hb)
    (hcollide hne)

/-- The role that a request creates or renames: the first identifier drawn, or the one named. -/
def Entrant.role? (entrant : Entrant) : Option Uuid :=
  match entrant.request with
  | .createRole _ => some entrant.connection.supply.next
  | .updateRole command => some command.id
  | _ => none

/-- Whether a request creates a role with a name in a scope or gives a role of the scope the name.
-/
def Entrant.AsksFor (scopes : Uuid → Scope) (name : Text) (scope : Scope) (entrant : Entrant) :
    Prop :=
  match entrant.request with
  | .createRole command => command.name = name ∧ command.scope = scope
  | .updateRole command => command.name = name ∧ scopes command.id = scope
  | _ => False

/-- What is expected of a race in which all parties assign roles. -/
structure AssignedOnce (commands : ι → AssignRole) (entrants : ι → Entrant) (race : Race ι) :
    Prop where
  /-- Of those that ask for one assignment at most one succeeds. -/
  one : ∀ i j, (commands i).key = (commands j).key → (race i).Succeeded → (race j).Succeeded →
    i = j
  /-- Each party tells of the assignments that it has committed, once each, and of nothing else. -/
  told : ∀ i, ∃ assignments : List Assignment,
    (race i).committed = assignments.map (fun a => .insertAssignment (.ofAssignment a)) ∧
      (race i).connection.published =
        (entrants i).connection.published ++
          assignments.map (·.created ((entrants i).clock.reading 1))
  /-- A party that was refused, by its check or by the index, ends with the conflict. -/
  refused : ∀ i, (race i).standing.refused = true → (race i).stage.result?.isSome = true →
    (race i).RolledBack (entrants i) .alreadyAssigned

/-- What is expected of a race in which all parties ask for one name in one scope. -/
structure NamedOnce (name : Text) (entrants : ι → Entrant) (race : Race ι) : Prop where
  /-- At most one party succeeds. -/
  one : ∀ i j, (race i).Succeeded → (race j).Succeeded → i = j
  /-- Only a party that succeeds publishes anything. -/
  told : ∀ i, (race i).connection.published ≠ (entrants i).connection.published →
    (race i).Succeeded
  /-- A party that was refused, by its check or by the index, ends with the conflict. -/
  refused : ∀ i, (race i).standing.refused = true → (race i).stage.result?.isSome = true →
    (race i).RolledBack (entrants i) (.nameTaken name)

theorem assigned_once {commands : ι → AssignRole}
    (hlawful : Race.Lawful (UniqueIndexes scopes) schedule (Race.start pattern entrants))
    (hcommands : ∀ i, (entrants i).request = .assignRole (commands i)) :
    AssignedOnce commands entrants ((Race.start pattern entrants).after schedule) := by
  have haccountable : ∀ i, ((Race.start pattern entrants).after schedule i).Accountable
      (fun _ _ => True) .alreadyAssigned (fun _ => True) fun events writes =>
        ∃ id, writes = [.insertAssignment
            (.ofAssignment ((commands i).assignment id (entrants i).clock))] ∧
          events = [((commands i).assignment id (entrants i).clock).created
            ((entrants i).clock.reading 1)] := by
    intro i
    apply hlawful.accountable i (fun _ _ _ => trivial)
    rw [hcommands i]
    have hrole : (Repository.findRole (commands i).role).Reads (fun _ => True) (fun _ => True)
        fun _ => True :=
      Repository.findRole_reads trivial (fun _ _ _ _ _ => trivial) fun _ _ _ _ _ => trivial
    apply Accounted.weaken ?_ (assignRole_accounted (entrants i).clock
      (entrants i).connection.supply (commands i) trivial trivial hrole ?_)
    · intro events writes hwrote
      exact ⟨_, hwrote⟩
    · intro assignment
      exact Repository.findAssignment_reads (fun _ _ => trivial) (fun _ _ => trivial)
        fun _ _ _ _ _ _ => trivial
  have hwrote : ∀ i, ((Race.start pattern entrants).after schedule i).Succeeded →
      ∃ id, .insertAssignment (.ofAssignment ((commands i).assignment id (entrants i).clock)) ∈
        ((Race.start pattern entrants).after schedule i).committed := by
    intro i hsucceeded
    rcases (haccountable i).told (hlawful.logged i) with
      ⟨_, _, ⟨id, hwrites, _⟩, _⟩ | ⟨hfailed, _⟩
    · exact ⟨id, by simp [hwrites]⟩
    · exact absurd hsucceeded hfailed
  refine ⟨?_, ?_, ?_⟩
  · intro i j hkey hi hj
    obtain ⟨_, ha⟩ := hwrote i hi
    obtain ⟨_, hb⟩ := hwrote j hj
    simp only [AssignRole.key, Prod.mk.injEq] at hkey
    exact hlawful.same_of_collision ha hb fun _ => ⟨_, rfl, _, rfl, hkey⟩
  · intro i
    rcases (haccountable i).told (hlawful.logged i) with
      ⟨_, events, ⟨id, hwrites, rfl⟩, hpublished⟩ | ⟨_, hnothing, hpublished⟩
    · exact ⟨[(commands i).assignment id (entrants i).clock], hwrites, hpublished⟩
    · exact ⟨[], hnothing, by simpa using hpublished⟩
  · intro i hrefused hended
    exact (haccountable i).refused (hlawful.logged i) hrefused hended

theorem Entrant.AsksFor.accounted {entrant : Entrant} {name : Text} {scope : Scope}
    (h : entrant.AsksFor scopes name scope) :
    (ofTransaction (entrant.request.useCase entrant.clock)).Leads
      (fun _ exchange => exchange.Selects)
      (Accounted (.nameTaken name) (fun _ => True) fun _ writes => ∃ role ∈ entrant.role?,
        ∃ write ∈ writes, write.entry? scopes = some (.named role name scope.id scope.type.text))
      entrant.connection.supply .blank := by
  obtain ⟨request, clock, connection⟩ := entrant
  cases request with
  | createRole command =>
    obtain ⟨rfl, rfl⟩ := h
    apply Accounted.weaken ?_
      (createRole_accounted clock connection.supply command fun _ => trivial)
    rintro _ _ ⟨rfl, _⟩
    exact ⟨_, rfl, _, List.mem_singleton_self _, rfl⟩
  | updateRole command =>
    obtain ⟨rfl, rfl⟩ := h
    apply Accounted.weaken ?_ (updateRole_accounted clock connection.supply command
      (· = command.id) trivial (fun _ => trivial) ?_)
    · rintro _ _ ⟨_, rfl, rfl, _⟩
      exact ⟨_, rfl, _, List.mem_singleton_self _, rfl⟩
    · apply Repository.findRole_reads (by simp)
      · intro row rest hselects role hid found hfound
        cases hfound
        exact hid.trans (hselects row List.mem_cons_self)
      · exact fun _ _ _ _ _ => trivial
  | _ => exact h.elim

theorem named_once {name : Text} {scope : Scope}
    (hlawful : Race.Lawful (UniqueIndexes scopes) schedule (Race.start pattern entrants))
    (hasks : ∀ i, (entrants i).AsksFor scopes name scope)
    (hroles : ∀ i j, i ≠ j → (entrants i).role? ≠ (entrants j).role?) :
    NamedOnce name entrants ((Race.start pattern entrants).after schedule) := by
  have haccountable := fun i =>
    hlawful.accountable i (fun _ _ hrule => hrule.selection) (hasks i).accounted
  have hwrote : ∀ i, ((Race.start pattern entrants).after schedule i).Succeeded →
      ∃ role ∈ (entrants i).role?,
        ∃ write ∈ ((Race.start pattern entrants).after schedule i).committed,
          write.entry? scopes = some (.named role name scope.id scope.type.text) := by
    intro i hsucceeded
    rcases (haccountable i).told (hlawful.logged i) with ⟨_, _, hwrites, _⟩ | ⟨hfailed, _⟩
    · exact hwrites
    · exact absurd hsucceeded hfailed
  refine ⟨?_, ?_, ?_⟩
  · intro i j hi hj
    obtain ⟨role, hrole, a, ha, hentry⟩ := hwrote i hi
    obtain ⟨other, hother, b, hb, hentry'⟩ := hwrote j hj
    apply hlawful.same_of_collision ha hb
    intro hne
    refine ⟨_, hentry, _, hentry', ?_, rfl, rfl, rfl⟩
    rintro rfl
    exact hroles i j hne (hrole.trans hother.symm)
  · intro i hpublished
    rcases (haccountable i).told (hlawful.logged i) with ⟨hsucceeded, _⟩ | ⟨_, _, hsame⟩
    · exact hsucceeded
    · exact absurd hsame hpublished
  · intro i hrefused hended
    exact (haccountable i).refused (hlawful.logged i) hrefused hended

/-- Over a database with unique indexes, in whatever order the statements of the parties reach it:
of the parties that ask for one assignment at most one succeeds, and of those that ask for one name
in one scope for different roles at most one; each tells of what it has committed and of nothing
else; and one that was refused, by its check or by an index, ends with the conflict, one rollback
and no event. A party that has ended has done what its step does over its connection. -/
theorem races_keep_uniqueness
    (hlawful : Race.Lawful (UniqueIndexes scopes) schedule (Race.start pattern entrants)) :
    (∀ i result, ((Race.start pattern entrants).after schedule i).stage.result? = some result →
      (entrants i).step pattern =
        (result, ((Race.start pattern entrants).after schedule i).connection)) ∧
    (∀ commands : ι → AssignRole, (∀ i, (entrants i).request = .assignRole (commands i)) →
      AssignedOnce commands entrants ((Race.start pattern entrants).after schedule)) ∧
    ∀ name scope, (∀ i, (entrants i).AsksFor scopes name scope) →
      (∀ i j, i ≠ j → (entrants i).role? ≠ (entrants j).role?) →
      NamedOnce name entrants ((Race.start pattern entrants).after schedule) :=
  ⟨fun _ _ => Race.step_of_ended, fun _ => assigned_once hlawful,
    fun _ _ => named_once hlawful⟩

end Outcomes

def storedRole : Role :=
  { id := Uuid.ofNat 1, name := "reader", scope := ⟨.organization, Uuid.ofNat 7⟩,
    createdAt := .epoch }

/-- Three requests for one assignment. The first two check before either has written; the last one
checks after the first has committed. -/
def assigning (i : Fin 3) : Entrant where
  request := .assignRole ⟨Uuid.ofNat 1, Uuid.ofNat 4, storedRole.scope, Uuid.ofNat 5⟩
  clock := .epoch
  connection :=
    let role := (RoleRow.ofRole storedRole).cells
    let assignment := AssignmentRow.ofAssignment
      ⟨Uuid.ofNat 101, Uuid.ofNat 1, Uuid.ofNat 4, storedRole.scope, .epoch, Uuid.ofNat 5⟩
    { supply := .after (100 * (i.val + 1))
      replies := [.ok [role], .ok []] ++
        match i with
        | 0 => [.ok [], .ok [], .ok [assignment.cells ++ role], .ok []]
        | 1 => [.ok [], .error ⟨.uniqueViolation, "duplicate key"⟩]
        | 2 => [.ok [[.int 1]]] }

def naming (i : Fin 3) : Entrant where
  request :=
    if i = 1 then .updateRole ⟨Uuid.ofNat 1, "writer", none, []⟩
    else .createRole ⟨"writer", storedRole.scope, none, []⟩
  clock := .epoch
  connection :=
    { supply := .after (100 * (i.val + 1))
      replies :=
        match i with
        | 0 => [.ok [], .ok []]
        | 1 => [.ok [(RoleRow.ofRole storedRole).cells], .ok [], .ok [],
            .error ⟨.uniqueViolation, "duplicate key"⟩]
        | 2 => [.ok [[.int 1]]] }

def assigningOrder : List (Fin 3) := [0, 0, 0, 1, 1, 1, 0, 1, 0, 1, 0, 0, 0, 2, 2, 2, 2, 1]

def namingOrder : List (Fin 3) := [0, 1, 1, 1, 0, 0, 1, 0, 1, 2, 2]

theorem first_unrefused :
    let assigned := Race.start (.star false (.one .dot)) assigning
    let named := Race.start (.star false (.one .dot)) naming
    Race.Lawful (UniqueIndexes fun _ => storedRole.scope) assigningOrder assigned ∧
      Race.Lawful (UniqueIndexes fun _ => storedRole.scope) namingOrder named ∧
      (∀ i, (assigned.after assigningOrder i).stage.result?.isSome = true ∧
        (assigned.after assigningOrder i).standing.refused = decide (i ≠ 0)) ∧
      ∀ i, (named.after namingOrder i).stage.result?.isSome = true ∧
        (named.after namingOrder i).standing.refused = decide (i ≠ 0) := by
  decide +kernel

theorem refused_beside_first :
    let assigned := (Race.start (.star false (.one .dot)) assigning).after assigningOrder
    let named := (Race.start (.star false (.one .dot)) naming).after namingOrder
    AssignedOnce (fun _ => ⟨Uuid.ofNat 1, Uuid.ofNat 4, storedRole.scope, Uuid.ofNat 5⟩) assigning
        assigned ∧
      NamedOnce "writer" naming named ∧
      ∀ i, i ≠ 0 → (assigned i).RolledBack (assigning i) .alreadyAssigned ∧
        (named i).RolledBack (naming i) (.nameTaken "writer") := by
  intro assigned named
  obtain ⟨hassigning, hnaming, hassigned, hnamed⟩ := first_unrefused
  have hasks : ∀ i, (naming i).AsksFor (fun _ => storedRole.scope) "writer" storedRole.scope := by
    intro i
    unfold Entrant.AsksFor
    match i with
    | 0 => exact ⟨rfl, rfl⟩
    | 1 => exact ⟨rfl, rfl⟩
    | 2 => exact ⟨rfl, rfl⟩
  have honce := (races_keep_uniqueness hassigning).2.1
    (fun _ => ⟨Uuid.ofNat 1, Uuid.ofNat 4, storedRole.scope, Uuid.ofNat 5⟩) fun _ => rfl
  have hname := (races_keep_uniqueness hnaming).2.2 "writer" storedRole.scope hasks
    (by decide +kernel)
  refine ⟨honce, hname, ?_⟩
  intro i hi
  exact ⟨honce.refused i ((hassigned i).2.trans (decide_eq_true hi)) (hassigned i).1,
    hname.refused i ((hnamed i).2.trans (decide_eq_true hi)) (hnamed i).1⟩

end Rbac.Sql
