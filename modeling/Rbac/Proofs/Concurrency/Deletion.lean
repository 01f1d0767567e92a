import Rbac.Proofs.Concurrency.Contention

namespace Rbac.Sql

namespace Statement

def deleted? : Statement → Option Uuid
  | .deleteRole role => some role
  | _ => none

def assigned? : Statement → Option Uuid
  | .insertAssignment row => some row.role
  | _ => none

def inserted? : Statement → Option Uuid
  | .insertAssignment row => some row.id
  | _ => none

/-- Whether two writes together leave an assignment without its role. -/
def Orphans (a b : Statement) : Prop :=
  (∃ role ∈ a.deleted?, b.assigned? = some role) ∨ ∃ role ∈ b.deleted?, a.assigned? = some role

instance : DecidableRel Orphans := fun a b =>
  inferInstanceAs (Decidable ((∃ role ∈ a.deleted?, b.assigned? = some role) ∨
    ∃ role ∈ b.deleted?, a.assigned? = some role))

end Statement

def Cell.IsWhole : Cell → Prop
  | .int _ => True
  | _ => False

instance : DecidablePred Cell.IsWhole := fun cell => by
  cases cell <;> unfold Cell.IsWhole <;> infer_instance

/-- What can be relied on in the rows that a session is sent: a role that is selected is the one
that was asked for, a count is a number, scope types can be read, and an assignment that the session
has inserted is found again. -/
def Exchange.Sound (standing : Standing) : Exchange → Prop
  | ⟨.selectRole id, .ok rows⟩ =>
    ∀ row ∈ (rows : List RoleRow), row.id = id ∧ Legible row.scopeType
  | ⟨.countAssignments _, .ok rows⟩ => ∀ cell ∈ @List.head? Cell rows, cell.IsWhole
  | ⟨.selectAssignment id, .ok rows⟩ =>
    (∀ joined ∈ (rows : List (AssignmentRow × RoleRow)),
      Legible joined.1.scopeType ∧ Legible joined.2.scopeType) ∧
    ∀ write ∈ standing.writes, write.inserted? = some id → rows.isEmpty = false
  | _ => True

instance (standing : Standing) : DecidablePred (Exchange.Sound standing) :=
  fun exchange => by
    obtain ⟨statement, reply⟩ := exchange
    cases reply with
    | error _ => cases statement <;> exact isTrue trivial
    | ok rows =>
      cases statement
      case selectRole id =>
        exact inferInstanceAs (Decidable
          (∀ row ∈ (rows : List RoleRow), row.id = id ∧ Legible row.scopeType))
      case countAssignments =>
        exact inferInstanceAs (Decidable (∀ cell ∈ @List.head? Cell rows, cell.IsWhole))
      case selectAssignment id =>
        exact inferInstanceAs (Decidable
          ((∀ joined ∈ (rows : List (AssignmentRow × RoleRow)),
            Legible joined.1.scopeType ∧ Legible joined.2.scopeType) ∧
          ∀ write ∈ standing.writes, write.inserted? = some id → rows.isEmpty = false))
      all_goals exact isTrue trivial

/-- How a database with a restricting foreign key answers: with a violation, where a write would
leave an assignment without its role, given what another session has committed or has pending. It
raises no other errors than violations of the key and of unique indexes. -/
structure ForeignKey {ι : Type} (race : Race ι) (i : ι) (exchange : Exchange) : Prop where
  violation : race.Blocked Statement.Orphans i exchange.statement →
    exchange.error? = some .foreignKeyViolation
  errors : ∀ error ∈ exchange.error?, error = .foreignKeyViolation ∨
    error = .uniqueViolation ∧ exchange.statement.contends = true
  sound : exchange.Sound (race i).standing

instance {ι : Type} [Fintype ι] [DecidableEq ι] (race : Race ι) (i : ι) (exchange : Exchange) :
    Decidable (ForeignKey race i exchange) :=
  decidable_of_iff (_ ∧ (∀ error ∈ exchange.error?, error = .foreignKeyViolation ∨
      error = .uniqueViolation ∧ exchange.statement.contends = true) ∧ _)
    ⟨fun h => ⟨h.1, h.2.1, h.2.2⟩, fun h => ⟨h.violation, h.errors, h.sound⟩⟩

/-- The key keeps every role that is assigned: what one party has deleted no other has assigned. -/
theorem no_assignment_orphaned {ι : Type} [DecidableEq ι] {pattern : Pattern}
    {entrants : ι → Entrant} {schedule : List ι}
    (hlawful : Race.Lawful ForeignKey schedule (Race.start pattern entrants)) :
    ((Race.start pattern entrants).after schedule).Exclusive Statement.Orphans :=
  hlawful.exclusive (fun _ _ => Or.symm) fun _ _ _ hrule => hrule.violation

/-- The failures that requests about one role can end with when they are run one after another. -/
def SerialFailure (role : Uuid) (failure : Failure) : Prop :=
  failure ∈ [.roleMissing role, .roleInUse, .systemRoleDelete, .scopeMismatch, .alreadyAssigned] ∨
    ∃ errors, failure = .invalid errors

def Entrant.Concerns (role : Uuid) (entrant : Entrant) : Prop :=
  match entrant.request with
  | .deleteRole id => id = role
  | .assignRole command => command.role = role
  | _ => False

/-- Whether the foreign key has refused a statement of the party. -/
def Party.Overtaken (party : Party) : Prop :=
  ∃ exchange ∈ party.heard, exchange.error? = some .foreignKeyViolation

instance : DecidablePred Party.Overtaken := fun party =>
  inferInstanceAs
    (Decidable (∃ exchange ∈ party.heard, exchange.error? = some .foreignKeyViolation))

/-- An error that was raised to the party is the refusal of the key, if there was one. -/
structure Party.RaisedByKey (party : Party) : Prop where
  raised : ∀ raised, party.standing.raised = some raised → raised.error = .foreignKeyViolation
  overtaken : party.Overtaken ↔ party.standing.raised ≠ none

theorem Party.start_raised (pattern : Pattern) (entrant : Entrant) :
    (start pattern entrant).RaisedByKey := by
  have hheard : (start pattern entrant).heard = [] := by
    unfold start
    split <;> rfl
  refine ⟨?_, ?_⟩
  · simp [standing, hheard, Standing.blank]
  · simp [standing, hheard, Standing.blank, Overtaken]

theorem Party.RaisedByKey.turn {party : Party} (h : party.RaisedByKey)
    (herrors : ∀ exchange ∈ party.exchange?, ∀ error ∈ exchange.error?,
      error = .foreignKeyViolation ∨
        error = .uniqueViolation ∧ exchange.statement.contends = true) :
    party.turn.RaisedByKey := by
  have hovertaken : party.turn.Overtaken ↔ party.Overtaken ∨
      ∃ exchange ∈ party.exchange?, exchange.error? = some .foreignKeyViolation := by
    simp [Overtaken, heard_turn, or_and_right, exists_or]
  have hstanding := party.standing_turn
  cases hexchange : party.exchange? with
  | none =>
    rw [hexchange] at hstanding hovertaken
    refine ⟨?_, ?_⟩
    · rw [hstanding]
      exact h.raised
    · rw [hstanding, hovertaken]
      simpa using h.overtaken
  | some exchange =>
    rw [hexchange] at hstanding hovertaken
    change party.turn.standing = party.standing.after exchange at hstanding
    rcases party.standing.raised_after exchange with ⟨hsame, hunique⟩ | ⟨raised, hnew, herror, hnot⟩
    · have hkey : exchange.error? ≠ some .foreignKeyViolation := by
        intro hviolated
        cases hunique _ hviolated
      refine ⟨?_, ?_⟩
      · rw [hstanding, hsame]
        exact h.raised
      · rw [hstanding, hsame, hovertaken, h.overtaken]
        simp [hkey]
    · -- The other errors are those of unique indexes, and these are refusals.
      have hviolated : raised.error = .foreignKeyViolation :=
        (herrors exchange hexchange raised.error herror).resolve_right hnot
      refine ⟨?_, ?_⟩
      · rw [hstanding, hnew]
        rintro _ ⟨⟩
        exact hviolated
      · rw [hstanding, hnew, hovertaken]
        simp [herror, hviolated]

theorem sound_role_reads {failures : Failure → Prop} (standing : Standing) (id : Uuid) :
    (Repository.findRole id).Reads (fun exchange => exchange.Sound standing)
      (fun found => ∀ role ∈ found, role.id = id) failures := by
  apply Repository.findRole_reads (by simp)
  · rintro row rest hsound role hid _ ⟨⟩
    exact hid.trans (hsound row List.mem_cons_self).1
  · intro row rest hsound hillegible
    exact absurd (hsound row List.mem_cons_self).2 hillegible

theorem Entrant.Concerns.accounted {entrant : Entrant} {role : Uuid} (h : entrant.Concerns role) :
    (ofTransaction (entrant.request.useCase entrant.clock)).Leads
      (fun standing exchange => exchange.Sound standing)
      (Accounted .alreadyAssigned (SerialFailure role) fun _ _ => True)
      entrant.connection.supply .blank := by
  obtain ⟨request, clock, connection⟩ := entrant
  cases request with
  | deleteRole id =>
    obtain rfl : id = role := h
    apply Accounted.weaken (fun _ _ _ => trivial) (deleteRole_accounted clock connection.supply id
      (· = id) .alreadyAssigned (by simp [SerialFailure]) (by simp [SerialFailure])
      (by simp [SerialFailure]) (sound_role_reads .blank id) ?_)
    rintro _ rfl
    apply Repository.countByRole_reads
    intro rows hsound cell hcell
    cases cell with
    | int count => exact ⟨count, rfl⟩
    | _ => exact (hsound _ hcell).elim
  | assignRole command =>
    obtain rfl : command.role = role := h
    apply Accounted.weaken (fun _ _ _ => trivial)
      (assignRole_accounted clock connection.supply command
      (by simp [SerialFailure]) (by simp [SerialFailure]) (sound_role_reads .blank _) ?_)
    intro assignment
    apply Repository.findAssignment_reads
    · intro hsound _
      cases hsound.2 _ (List.mem_singleton_self _) rfl
    · simp
    · intro rows hsound joined hjoined hillegible
      exact absurd (hsound.1 joined hjoined) hillegible
  | _ => exact h.elim

/-- Whether a step ends as one of requests about the role that are run one after another can. -/
def SerialResult (role : Uuid) : Except Failure (Outcome Answer) → Prop
  | .ok _ => True
  | .error failure => SerialFailure role failure

/-- The end of a party follows from whether the key has refused a statement of it. -/
theorem Party.Accountable.serial_iff {expected : Standing → Exchange → Prop} {role : Uuid}
    {wrote : List Event → List Statement → Prop} {entrant : Entrant} {party : Party}
    (h : party.Accountable expected .alreadyAssigned (SerialFailure role) wrote)
    (hkey : party.RaisedByKey) (hlogged : party.Logged entrant)
    {result : Except Failure (Outcome Answer)} (hended : party.stage.result? = some result) :
    (SerialResult role result ↔ ¬ party.Overtaken) ∧
      (party.Overtaken → ∃ message,
        party.RolledBack entrant (.database .foreignKeyViolation message)) := by
  have hlog := hlogged.log
  have hpublished := hlogged.published
  obtain ⟨stage, connection, heard⟩ := party
  cases stage with
  | running session => cases hended
  | committed answer =>
    cases hended
    obtain ⟨⟨_, hraised, _⟩, hshown⟩ := h
    obtain ⟨outcome, rfl⟩ := hshown _ rfl
    have hnot := fun hovertaken => hkey.overtaken.mp hovertaken hraised
    exact ⟨⟨fun _ => hnot, fun _ => trivial⟩, fun hovertaken => absurd hovertaken hnot⟩
  | turnedAway errors =>
    cases hended
    obtain rfl : heard = [] := h
    have hnot := fun hovertaken => hkey.overtaken.mp hovertaken rfl
    exact ⟨⟨fun _ => hnot, fun _ => Or.inr ⟨errors, rfl⟩⟩, fun hovertaken => absurd hovertaken hnot⟩
  | rolledBack failure =>
    cases hended
    obtain ⟨haccount, _⟩ := h
    rcases haccount.cases_error with ⟨hraised, hserial⟩ | ⟨raised, hraised, rfl⟩
    · have hnot := fun hovertaken => hkey.overtaken.mp hovertaken hraised
      refine ⟨⟨fun _ => hnot, fun _ => ?_⟩, fun hovertaken => absurd hovertaken hnot⟩
      rcases hserial with rfl | hserial
      · exact Or.inl (by simp)
      · exact hserial
    · have hovertaken := hkey.overtaken.mpr (by simp [hraised])
      have hfailure : raised.failure = .database .foreignKeyViolation raised.message := by
        rw [Raised.failure, hkey.raised raised hraised]
      refine ⟨⟨?_, fun hnot => absurd hovertaken hnot⟩, fun _ => ⟨raised.message, ?_⟩⟩
      · rw [hfailure]
        simp [SerialResult, SerialFailure, Failure.roleMissing, Failure.roleInUse,
          Failure.systemRoleDelete, Failure.scopeMismatch, Failure.alreadyAssigned]
      · rw [← hfailure]
        exact ⟨rfl, hlog, by simpa [Stage.told] using hpublished⟩

/-- Over a database with a restricting foreign key, in whatever order the statements of parties
reach it that delete a role or assign it: a party that has ended has a result or a failure that it
could have without a race, unless the key has refused a statement of it. That refusal is no failure
of the service: the party passes it on as the driver raised it, after one rollback and without an
event. -/
theorem raw_error_iff_overtaken {ι : Type} [DecidableEq ι] {role : Uuid} {pattern : Pattern}
    {entrants : ι → Entrant} {schedule : List ι}
    (hlawful : Race.Lawful ForeignKey schedule (Race.start pattern entrants))
    (hconcerns : ∀ i, (entrants i).Concerns role) (i : ι)
    {result : Except Failure (Outcome Answer)}
    (hended : ((Race.start pattern entrants).after schedule i).stage.result? = some result) :
    (entrants i).step pattern =
        (result, ((Race.start pattern entrants).after schedule i).connection) ∧
      (SerialResult role result ↔
        ¬ ((Race.start pattern entrants).after schedule i).Overtaken) ∧
      (((Race.start pattern entrants).after schedule i).Overtaken →
        ∃ message, ((Race.start pattern entrants).after schedule i).RolledBack (entrants i)
          (.database .foreignKeyViolation message)) := by
  have haccountable := hlawful.accountable i (fun _ _ hrule => hrule.sound)
    (hconcerns i).accounted
  have hkey : ((Race.start pattern entrants).after schedule i).RaisedByKey :=
    hlawful.keeps_at (P := Party.RaisedByKey) i
      (fun _ hparty hrule => hparty.turn fun exchange hexchange =>
        (hrule exchange hexchange).errors)
      (Party.start_raised pattern (entrants i))
  exact ⟨Race.step_of_ended hended, haccountable.serial_iff hkey (hlawful.logged i) hended⟩

/-- A request to delete a role, and one that assigns it once the first has counted no assignments.
-/
def overtaking (i : Fin 2) : Entrant where
  request :=
    if i = 0 then .deleteRole (Uuid.ofNat 1)
    else .assignRole ⟨Uuid.ofNat 1, Uuid.ofNat 4, ⟨.organization, Uuid.ofNat 7⟩, Uuid.ofNat 5⟩
  clock := .epoch
  connection :=
    let role := (RoleRow.ofRole
      { id := Uuid.ofNat 1, name := "reader", scope := ⟨.organization, Uuid.ofNat 7⟩,
        createdAt := .epoch }).cells
    let assignment := (AssignmentRow.ofAssignment ⟨Uuid.ofNat 101, Uuid.ofNat 1, Uuid.ofNat 4,
      ⟨.organization, Uuid.ofNat 7⟩, .epoch, Uuid.ofNat 5⟩).cells
    { supply := .after 100
      replies := [.ok [role], .ok []] ++
        match i with
        | 0 => [.ok [[.int 0]], .error ⟨.foreignKeyViolation, "still referenced"⟩]
        | 1 => [.ok [], .ok [], .ok [assignment ++ role], .ok []] }

/-- The turns of both in order: the assignment is committed between the count and the deletion. -/
def overtakingOrder : List (Fin 2) := [0, 0, 0, 1, 1, 1, 1, 1, 1, 1, 1, 0, 0]

theorem overtaking_concerns (i : Fin 2) : (overtaking i).Concerns (Uuid.ofNat 1) := by
  unfold Entrant.Concerns
  match i with
  | 0 => rfl
  | 1 => rfl

theorem overtaking_ends :
    let start := Race.start (.star false (.one .dot)) overtaking
    let race := start.after overtakingOrder
    Race.Lawful ForeignKey overtakingOrder start ∧
      (race 0).stage.result? =
        some (.error (.database .foreignKeyViolation "still referenced")) ∧
      (race 0).Overtaken ∧ (race 1).stage.result?.isSome = true ∧ ¬ (race 1).Overtaken := by
  decide +kernel

/-- A deletion that is overtaken ends with the error of the driver. -/
theorem overtaken_deletion_raw :
    Race.Lawful ForeignKey overtakingOrder (Race.start (.star false (.one .dot)) overtaking) ∧
      (∀ i, (overtaking i).Concerns (Uuid.ofNat 1)) ∧
      ((Race.start (.star false (.one .dot)) overtaking).after overtakingOrder 0).stage.result? =
        some (.error (.database .foreignKeyViolation "still referenced")) ∧
      ¬ SerialFailure (Uuid.ofNat 1) (.database .foreignKeyViolation "still referenced") := by
  obtain ⟨hlawful, hdeleted, _⟩ := overtaking_ends
  refine ⟨hlawful, overtaking_concerns, hdeleted, ?_⟩
  simp [SerialFailure, Failure.roleMissing, Failure.roleInUse, Failure.systemRoleDelete,
    Failure.scopeMismatch, Failure.alreadyAssigned]

theorem overtaken_deletion_alone_raw :
    let race := (Race.start (.star false (.one .dot)) overtaking).after overtakingOrder
    (race 0).Overtaken ∧ ¬ (race 1).Overtaken ∧
      (∃ message,
        (race 0).RolledBack (overtaking 0) (.database .foreignKeyViolation message)) ∧
      ∃ result, (race 1).stage.result? = some result ∧ SerialResult (Uuid.ofNat 1) result := by
  obtain ⟨hlawful, hdeleted, hovertaken, hended, hahead⟩ := overtaking_ends
  obtain ⟨assigned, hassigned⟩ := Option.isSome_iff_exists.mp hended
  obtain ⟨_, _, hrolled⟩ := raw_error_iff_overtaken hlawful overtaking_concerns 0 hdeleted
  obtain ⟨_, hserial, _⟩ := raw_error_iff_overtaken hlawful overtaking_concerns 1 hassigned
  exact ⟨hovertaken, hahead, hrolled hovertaken, assigned, hassigned, hserial.mpr hahead⟩

end Rbac.Sql
