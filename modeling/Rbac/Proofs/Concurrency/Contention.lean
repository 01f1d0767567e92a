import Rbac.Proofs.Concurrency.Race
import Rbac.Proofs.UseCases

namespace Rbac

def Assignment.created (assignment : Assignment) (moment : Instant) : Event :=
  ⟨moment, .assignmentCreated assignment.id assignment.role assignment.user
    assignment.scope assignment.assignedBy⟩

end Rbac

namespace Rbac.Sql

/-- How a session that ends goes with its standing. One that was refused fails with the given
conflict; one that met another error of the database passes it on; the other failures are of a given
kind. One with an answer met nothing of this, and what it tells goes with what it wrote. -/
def Accounted (conflict : Failure) (denials : Failure → Prop)
    (wrote : List Event → List Statement → Prop) :
    Except Failure (Except Failure (Outcome Answer)) → Standing → Prop
  | .ok answer, standing => standing.refused = false ∧ standing.raised = none ∧
      ∀ outcome, answer = .ok outcome → wrote (outcome.events.getD []) standing.writes
  | .error failure, standing =>
    if standing.refused then standing.raised = none ∧ failure = conflict
    else standing.raised.elim (denials failure) fun raised => failure = raised.failure

/-- Whether the database has not stood in the way so far. -/
structure Standing.Clear (standing : Standing) : Prop where
  unrefused : standing.refused = false
  unraised : standing.raised = none

theorem Standing.blank_clear : Standing.blank.Clear :=
  ⟨rfl, rfl⟩

theorem Standing.Clear.wrote {standing : Standing} (h : standing.Clear) (statement : Statement) :
    (standing.wrote statement).Clear :=
  ⟨h.unrefused, h.unraised⟩

section Sessions

variable {β : Type}

theorem ofTransaction_findRole (id : Uuid) (f : Option Role → Transaction β) :
    ofTransaction (Transaction.findRole id >>= f) =
      (Repository.findRole id).bind fun found => ofTransaction (f found) := rfl

theorem ofTransaction_nameTaken (name : Text) (scope : Scope) (except : Option Uuid)
    (f : Bool → Transaction β) :
    ofTransaction (Transaction.nameTaken name scope except >>= f) =
      (Repository.nameTaken name scope except).bind fun taken => ofTransaction (f taken) := rfl

theorem ofTransaction_insertRole (role : Role) (f : Unit → Transaction β) :
    ofTransaction (Transaction.insertRole role >>= f) =
      (Session.executeUnique (.insertRole (.ofRole role)) (.nameTaken role.name)).bind fun _ =>
        (Repository.insertPermissions role.permissions).bind fun _ => ofTransaction (f ()) :=
  Session.bind_assoc _ _ _

theorem ofTransaction_saveRole (role : Role) (f : Unit → Transaction β) :
    ofTransaction (Transaction.saveRole role >>= f) =
      (Session.executeUnique (.updateRole role.id role.name role.description role.updatedAt)
          (.nameTaken role.name)).bind fun _ =>
        (Session.execute (.trimPermissions role.id role.actions)).bind fun _ =>
          (Repository.insertPermissions role.permissions).bind fun _ => ofTransaction (f ()) := by
  apply (Session.bind_assoc _ _ _).trans
  congr 1
  funext _
  exact Session.bind_assoc _ _ _

theorem ofTransaction_countByRole (role : Uuid) (f : Nat → Transaction β) :
    ofTransaction (Transaction.countByRole role >>= f) =
      (ofOperation (.countByRole role)).bind fun held => ofTransaction (f held) := rfl

theorem ofTransaction_deleteRole (id : Uuid) (f : Unit → Transaction β) :
    ofTransaction (Transaction.deleteRole id >>= f) =
      (Session.execute (.deleteRole id)).bind fun _ => ofTransaction (f ()) := rfl

theorem ofTransaction_isAssigned (role user scopeId : Uuid) (f : Bool → Transaction β) :
    ofTransaction (Transaction.isAssigned role user scopeId >>= f) =
      (Repository.isAssigned role user scopeId).bind fun held => ofTransaction (f held) := rfl

theorem ofTransaction_insertAssignment (assignment : Assignment) (f : Unit → Transaction β) :
    ofTransaction (Transaction.insertAssignment assignment >>= f) =
      (Repository.insertAssignment assignment).bind fun _ => ofTransaction (f ()) := rfl

theorem ofTransaction_findAssignment (id : Uuid) (f : Option Grant → Transaction β) :
    ofTransaction (Transaction.findAssignment id >>= f) =
      (Repository.findAssignment id).bind fun found => ofTransaction (f found) := rfl

end Sessions

namespace Accounted

variable {β : Type} {expected : Standing → Exchange → Prop} {conflict : Failure}
  {denials : Failure → Prop} {wrote : List Event → List Statement → Prop} {standing : Standing}
  {supply : Supply}

theorem refusal (h : standing.Clear) :
    Accounted conflict denials wrote (.error conflict) standing.refuse :=
  ⟨h.unraised, rfl⟩

theorem of_refused {failure : Failure}
    (h : Accounted conflict denials wrote (.error failure) standing)
    (hrefused : standing.refused = true) : standing.raised = none ∧ failure = conflict := by
  simpa [Accounted, hrefused] using h

theorem cases_error {failure : Failure}
    (h : Accounted conflict denials wrote (.error failure) standing) :
    (standing.raised = none ∧ (failure = conflict ∨ denials failure)) ∨
      ∃ raised, standing.raised = some raised ∧ failure = raised.failure := by
  by_cases hrefused : standing.refused = true
  · obtain ⟨hraised, hfailure⟩ := h.of_refused hrefused
    exact Or.inl ⟨hraised, Or.inl hfailure⟩
  · rw [Accounted, if_neg hrefused] at h
    cases hraised : standing.raised with
    | none =>
      rw [hraised] at h
      exact Or.inl ⟨rfl, Or.inr h⟩
    | some raised =>
      rw [hraised] at h
      exact Or.inr ⟨raised, rfl, h⟩

theorem passedOn (h : standing.Clear) (raised : Raised) :
    Accounted conflict denials wrote (.error raised.failure) (standing.raise raised) := by
  simp [Accounted, Standing.raise, h.unrefused]

theorem denial {failure : Failure} (h : standing.Clear) (hfailure : denials failure) :
    Accounted conflict denials wrote (.error failure) standing := by
  simp [Accounted, h.unrefused, h.unraised, hfailure]

theorem answer (h : standing.Clear) {events : List Event} {value : Answer}
    (hwrote : wrote events standing.writes) :
    Accounted conflict denials wrote (.ok (.ok (.written value events))) standing := by
  refine ⟨h.unrefused, h.unraised, ?_⟩
  rintro _ ⟨⟩
  exact hwrote

theorem read (h : standing.Clear) {values : β → Prop} {s : Session β}
    {f : β → Session (Except Failure (Outcome Answer))}
    (hs : s.Reads (expected standing) values denials)
    (hf : ∀ value, values value →
      (f value).Leads expected (Accounted conflict denials wrote) supply standing) :
    (s.bind f).Leads expected (Accounted conflict denials wrote) supply standing :=
  hs.leads (fun _ hfailure => denial h hfailure) (fun _ raised _ _ => passedOn h raised) hf

theorem check (h : standing.Clear) {statement : Statement} (hchecks : statement.checks = true)
    {f : Bool → Session (Except Failure (Outcome Answer))} (hfound : f true = .fail conflict)
    (hfree : (f false).Leads expected (Accounted conflict denials wrote) supply standing) :
    ((Session.query statement >>= fun rows => pure !rows.isEmpty).bind f).Leads expected
      (Accounted conflict denials wrote) supply standing := by
  apply Session.check_leads hchecks (fun raised _ => passedOn h raised) ?_ hfree
  rw [hfound]
  exact refusal h

theorem writeUnique (h : standing.Clear) {statement : Statement}
    (hcontends : statement.contends = true)
    {f : Unit → Session (Except Failure (Outcome Answer))}
    (hf : (f ()).Leads expected (Accounted conflict denials wrote) supply
      (standing.wrote statement)) :
    ((Session.executeUnique statement conflict).bind f).Leads expected
      (Accounted conflict denials wrote) supply standing :=
  Session.executeUnique_leads hcontends (refusal h) (fun raised _ _ => passedOn h raised) hf

theorem write (h : standing.Clear) {statement : Statement} (hwrites : statement.writes = true)
    (hidle : statement.contends = false)
    {f : Unit → Session (Except Failure (Outcome Answer))}
    (hf : (f ()).Leads expected (Accounted conflict denials wrote) supply
      (standing.wrote statement)) :
    ((Session.execute statement).bind f).Leads expected (Accounted conflict denials wrote) supply
      standing :=
  Session.execute_leads hwrites hidle (fun raised _ => passedOn h raised) hf

theorem weaken {less : List Event → List Statement → Prop}
    (hless : ∀ events writes, wrote events writes → less events writes)
    {s : Session (Except Failure (Outcome Answer))}
    (hs : s.Leads expected (Accounted conflict denials wrote) supply standing) :
    s.Leads expected (Accounted conflict denials less) supply standing := by
  apply hs.mono
  intro result standing h
  cases result with
  | error failure => exact h
  | ok answer => exact ⟨h.1, h.2.1, fun outcome houtcome => hless _ _ (h.2.2 outcome houtcome)⟩

end Accounted

variable {expected : Standing → Exchange → Prop} {denials : Failure → Prop} (clock : Clock)
  (supply : Supply)

theorem assignRole_accounted (command : AssignRole) {roles : Option Role → Prop}
    (hmissing : denials (.roleMissing command.role)) (hmismatch : denials .scopeMismatch)
    (hrole : (Repository.findRole command.role).Reads (expected .blank) roles denials)
    (hsaved : ∀ assignment, (Repository.findAssignment assignment.id).Reads
      (expected (Standing.blank.wrote (.insertAssignment (.ofAssignment assignment))))
      (fun saved => saved = none → denials (.assignmentMissing assignment.id)) denials) :
    (ofTransaction (UseCase.assignRole command clock)).Leads expected
      (Accounted .alreadyAssigned denials fun events writes =>
        writes = [.insertAssignment (.ofAssignment (command.assignment supply.next clock))] ∧
          events = [(command.assignment supply.next clock).created (clock.reading 1)])
      supply .blank := by
  have hblank := Standing.blank_clear
  rw [UseCase.assignRole, ofTransaction_findRole]
  apply Accounted.read hblank hrole
  intro found _
  cases found with
  | none => exact Accounted.denial hblank hmissing
  | some role =>
    dsimp only
    split
    · exact Accounted.denial hblank hmismatch
    rw [ofTransaction_isAssigned]
    apply Accounted.check hblank rfl rfl
    apply Session.draw_leads
    rw [ofTransaction_insertAssignment]
    apply Accounted.writeUnique hblank rfl
    rw [ofTransaction_findAssignment]
    apply Accounted.read (hblank.wrote _) (hsaved (command.assignment supply.next clock))
    intro saved hnone
    cases saved with
    | none => exact Accounted.denial (hblank.wrote _) (hnone rfl)
    | some grant =>
      dsimp only
      -- An answer that cannot be shown tells nothing, so nothing is said of the writes then.
      cases grant.view with
      | error failure => exact ⟨rfl, rfl, by simp [Except.map]⟩
      | ok view => exact Accounted.answer (hblank.wrote _) ⟨rfl, rfl⟩

/-- Giving a new role its permissions says nothing to the database, and fails as the domain does. -/
theorem grantEach_leads {β : Type} {ends : Except Failure β → Standing → Prop}
    {standing : Standing} (role : Role) {actions : List Text} {f : Role → Transaction β}
    (hfails : ∀ message, ends (.error (.domain message)) standing)
    (hf : ∀ new later, (ofTransaction (f (role.extend new))).Leads expected ends later standing) :
    (ofTransaction (UseCase.grantEach role actions clock >>= f)).Leads expected ends supply
      standing := by
  rw [UseCase.grantEach, Transaction.bind_assoc]
  apply Session.draw_leads
  rcases hadded : (role.addEach clock actions).run supply with ⟨⟨failure | _, granted⟩, later⟩
  · obtain ⟨message, rfl⟩ := Role.addEach_error hadded
    exact hfails message
  · obtain ⟨new, rfl, _⟩ := Role.addEach_extends hadded
    exact hf new later

theorem createRole_accounted (command : CreateRole)
    (hdomain : ∀ message, denials (.domain message)) :
    (ofTransaction (UseCase.createRole command clock)).Leads expected
      (Accounted (.nameTaken command.name) denials fun events writes =>
        writes = [.insertRole (.ofRole (command.bare supply.next clock))] ∧
          events = [⟨clock.reading 1, .roleCreated supply.next command.name command.scope⟩])
      supply .blank := by
  have hblank := Standing.blank_clear
  rw [UseCase.createRole, ofTransaction_nameTaken]
  apply Accounted.check hblank rfl rfl
  apply Session.draw_leads
  apply grantEach_leads (clock.past 2) supply.advance (command.bare supply.next clock)
  · intro message
    exact Accounted.denial hblank (hdomain message)
  intro new later
  rw [ofTransaction_insertRole]
  apply Accounted.writeUnique hblank rfl
  apply Accounted.read (hblank.wrote _) (Repository.insertPermissions_reads _)
  intro _ _
  exact Accounted.answer (hblank.wrote _) ⟨rfl, rfl⟩

theorem updateRole_accounted (command : UpdateRole) (ids : Uuid → Prop)
    (hmissing : denials (.roleMissing command.id)) (hdomain : ∀ message, denials (.domain message))
    (hrole : (Repository.findRole command.id).Reads (expected .blank)
      (fun found => ∀ role ∈ found, ids role.id) denials) :
    (ofTransaction (UseCase.updateRole command clock)).Leads expected
      (Accounted (.nameTaken command.name) denials fun events writes => ∃ id, ids id ∧
        writes = [.updateRole id command.name command.description (some (clock.reading 0))] ∧
          events = [⟨clock.reading 1, .roleUpdated id command.name⟩])
      supply .blank := by
  have hblank := Standing.blank_clear
  rw [UseCase.updateRole, ofTransaction_findRole]
  apply Accounted.read hblank hrole
  intro found hid
  cases found with
  | none => exact Accounted.denial hblank hmissing
  | some role =>
    dsimp only
    rw [ofTransaction_nameTaken]
    apply Accounted.check hblank rfl rfl
    by_cases hsystem : role.isSystem = true
    · have hupdate :
          role.update command.name command.description clock = .error .systemRoleUpdate :=
        if_pos hsystem
      rw [hupdate]
      exact Accounted.denial hblank (hdomain _)
    · have hupdate : role.update command.name command.description clock =
          .ok (command.renamed role clock, ⟨clock.reading 1, .roleUpdated role.id command.name⟩) :=
        if_neg hsystem
      rw [hupdate]
      apply Session.draw_leads
      have hopen : role.isSystem = false := by simpa using hsystem
      have hrenamed : (command.renamed role clock).isSystem = false := hopen
      rcases hsync : ((command.renamed role clock).sync command.permissions (clock.past 2)).run
        supply with ⟨⟨failure | changes, synced⟩, later⟩
      · obtain ⟨message, rfl⟩ := Role.sync_error hrenamed hsync
        exact Accounted.denial hblank (hdomain message)
      · obtain ⟨new, rfl, _⟩ := Role.sync_extends hrenamed hsync
        change (ofTransaction (Transaction.saveRole _ >>= _)).Leads _ _ later _
        rw [ofTransaction_saveRole]
        apply Accounted.writeUnique hblank rfl
        apply Accounted.read (hblank.wrote _) (Session.execute_reads rfl)
        intro _ _
        apply Accounted.read (hblank.wrote _) (Repository.insertPermissions_reads _)
        intro _ _
        exact Accounted.answer (hblank.wrote _) ⟨role.id, hid role rfl, rfl, rfl⟩

theorem deleteRole_accounted (id : Uuid) (ids : Uuid → Prop) (conflict : Failure)
    (hmissing : denials (.roleMissing id)) (hheld : denials .roleInUse)
    (hsystem : denials .systemRoleDelete)
    (hrole : (Repository.findRole id).Reads (expected .blank)
      (fun found => ∀ role ∈ found, ids role.id) denials)
    (hcount : ∀ role, ids role →
      (ofOperation (.countByRole role)).Reads (expected .blank) (fun _ => True) denials) :
    (ofTransaction (UseCase.deleteRole id clock)).Leads expected
      (Accounted conflict denials fun events writes => ∃ role, ids role ∧
        writes = [.deleteRole role] ∧ events = [⟨clock.reading 0, .roleDeleted role⟩])
      supply .blank := by
  have hblank := Standing.blank_clear
  rw [UseCase.deleteRole, ofTransaction_findRole]
  apply Accounted.read hblank hrole
  intro found hid
  cases found with
  | none => exact Accounted.denial hblank hmissing
  | some role =>
    have hfound : ids role.id := hid role rfl
    dsimp only
    rw [ofTransaction_countByRole]
    apply Accounted.read hblank (hcount role.id hfound)
    intro held _
    split
    · exact Accounted.denial hblank hheld
    by_cases his : role.isSystem = true
    · have hdelete : role.delete (clock.reading 0) = .error .systemRoleDelete := if_pos his
      rw [hdelete]
      exact Accounted.denial hblank hsystem
    · have hdelete : role.delete (clock.reading 0) = .ok ⟨clock.reading 0, .roleDeleted role.id⟩ :=
        if_neg his
      rw [hdelete]
      change (ofTransaction (Transaction.deleteRole role.id >>= _)).Leads _ _ supply _
      rw [ofTransaction_deleteRole]
      apply Accounted.write hblank rfl rfl
      exact Accounted.answer (hblank.wrote _) ⟨role.id, hfound, rfl, rfl⟩

namespace Party

/-- What is counted on of a party: the account of its session, and that its answer can be shown. -/
def Accountable (expected : Standing → Exchange → Prop) (conflict : Failure)
    (denials : Failure → Prop) (wrote : List Event → List Statement → Prop)
    (party : Party) : Prop :=
  party.Led expected fun result standing =>
    Accounted conflict denials wrote result standing ∧
      ∀ answer, result = .ok answer → UseCase.Shown answer

/-- The party has failed, after one rollback and without an event. -/
structure RolledBack (entrant : Entrant) (failure : Failure) (party : Party) : Prop where
  result : party.stage.result? = some (.error failure)
  log : party.connection.log = entrant.connection.log ++
    (party.heard.map (fun exchange => .sent exchange.statement) ++ [.rollback])
  published : party.connection.published = entrant.connection.published

def Succeeded (party : Party) : Prop :=
  ∃ outcome, party.stage.result? = some (.ok outcome)

def committed (party : Party) : List Statement :=
  match party.stage with
  | .committed _ => party.standing.writes
  | .running _ | .rolledBack _ | .turnedAway _ => []

theorem live_of_committed {party : Party} {statement : Statement}
    (h : statement ∈ party.committed) : statement ∈ party.live := by
  obtain ⟨stage, connection, heard⟩ := party
  cases stage with
  | committed answer => exact h
  | running session => cases h
  | rolledBack failure => cases h
  | turnedAway errors => cases h

namespace Accountable

variable {conflict : Failure} {wrote : List Event → List Statement → Prop} {entrant : Entrant}
  {party : Party}

theorem refused (h : party.Accountable expected conflict denials wrote)
    (hlogged : party.Logged entrant) (hrefused : party.standing.refused = true)
    (hended : party.stage.result?.isSome = true) : party.RolledBack entrant conflict := by
  obtain ⟨stage, connection, heard⟩ := party
  cases stage with
  | running session => cases hended
  | committed answer =>
    obtain ⟨⟨hclear, _⟩, _⟩ := h
    rw [hrefused] at hclear
    cases hclear
  | rolledBack failure =>
    obtain ⟨haccount, _⟩ := h
    obtain ⟨_, rfl⟩ := haccount.of_refused hrefused
    refine ⟨rfl, hlogged.log, ?_⟩
    rw [hlogged.published]
    simp [Stage.told]
  | turnedAway errors =>
    obtain rfl : heard = [] := h
    cases hrefused

/-- What a party has published goes with what it has committed, and only one that succeeds has
published or committed anything. -/
theorem told (h : party.Accountable expected conflict denials wrote)
    (hlogged : party.Logged entrant) :
    (party.Succeeded ∧ ∃ events, wrote events party.committed ∧
        party.connection.published = entrant.connection.published ++ events) ∨
      (¬ party.Succeeded ∧ party.committed = [] ∧
        party.connection.published = entrant.connection.published) := by
  have hpublished := hlogged.published
  obtain ⟨stage, connection, heard⟩ := party
  cases stage with
  | committed answer =>
    obtain ⟨⟨_, _, hwrote⟩, hshown⟩ := h
    obtain ⟨outcome, rfl⟩ := hshown answer rfl
    exact Or.inl ⟨⟨outcome, rfl⟩, _, hwrote outcome rfl, hpublished⟩
  | running session =>
    rw [Stage.told, List.append_nil] at hpublished
    exact Or.inr ⟨by simp [Succeeded, Stage.result?], rfl, hpublished⟩
  | rolledBack failure =>
    rw [Stage.told, List.append_nil] at hpublished
    exact Or.inr ⟨by simp [Succeeded, Stage.result?], rfl, hpublished⟩
  | turnedAway errors =>
    rw [Stage.told, List.append_nil] at hpublished
    exact Or.inr ⟨by simp [Succeeded, Stage.result?], rfl, hpublished⟩

end Accountable
end Party

/-- A party of a lawful race can be counted on for the account of its session. -/
theorem Race.Lawful.accountable {ι : Type} [DecidableEq ι] {rule : Race ι → ι → Exchange → Prop}
    {pattern : Pattern} {entrants : ι → Entrant} {schedule : List ι} {conflict : Failure}
    {wrote : List Event → List Statement → Prop}
    (hlawful : Race.Lawful rule schedule (Race.start pattern entrants)) (i : ι)
    (hrule : ∀ (race : Race ι) exchange, rule race i exchange →
      expected (race i).standing exchange)
    (h : (ofTransaction ((entrants i).request.useCase (entrants i).clock)).Leads expected
      (Accounted conflict denials wrote) (entrants i).connection.supply .blank) :
    ((Race.start pattern entrants).after schedule i).Accountable expected conflict denials wrote :=
  hlawful.keeps_at (P := fun party => party.Accountable expected conflict denials wrote) i
    (fun race hparty hexchange => hparty.turn fun exchange hin =>
      hrule race exchange (hexchange exchange hin))
    (Party.start_led pattern h)

end Rbac.Sql
