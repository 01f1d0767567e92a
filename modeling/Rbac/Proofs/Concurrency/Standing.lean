import Rbac.Proofs.Database.Agreeing
import Rbac.Proofs.Sessions

namespace Rbac.Sql

variable {α β : Type}

/-- A statement with the reply to it. -/
structure Exchange where
  statement : Statement
  reply : Reply statement

def Exchange.error? (exchange : Exchange) : Option DatabaseError :=
  match exchange.reply with
  | .ok _ => none
  | .error raised => some raised.error

namespace Statement

/-- Whether the statement looks for a record that would stand in the way. -/
def checks : Statement → Bool
  | .findRoleName .. | .findAssignment .. => true
  | _ => false

def writes : Statement → Bool
  | .insertRole _ | .updateRole .. | .deleteRole _ | .insertAssignment _ | .deleteAssignment _ =>
      true
  | _ => false

/-- Whether the statement is a write that a unique index can refuse. -/
def contends : Statement → Bool
  | .insertRole _ | .updateRole .. | .insertAssignment _ => true
  | _ => false

/-- Whether the statement leaves the standing of its session alone. -/
def quiet (statement : Statement) : Bool :=
  !statement.checks && !statement.writes

end Statement

/-- What a session has written so far, whether it was refused because what it would write is there
already, and the error of the database that it met otherwise. -/
structure Standing where
  writes : List Statement := []
  refused : Bool := false
  raised : Option Raised := none

namespace Standing

def blank : Standing := {}

def wrote (statement : Statement) (standing : Standing) : Standing :=
  { standing with writes := standing.writes ++ [statement] }

def refuse (standing : Standing) : Standing :=
  { standing with refused := true }

def raise (raised : Raised) (standing : Standing) : Standing :=
  { standing with raised := some raised }

/-- The standing once a statement is answered. A record that is found by a check and a unique index
that is violated by a write are refusals. -/
def after (standing : Standing) (exchange : Exchange) : Standing :=
  match exchange.reply with
  | .ok rows =>
    if exchange.statement.checks && !rows.isEmpty then standing.refuse
    else if exchange.statement.writes then standing.wrote exchange.statement
    else standing
  | .error raised =>
    if exchange.statement.contends && decide (raised.error = .uniqueViolation) then standing.refuse
    else standing.raise raised

variable {standing : Standing} {statement : Statement}

theorem after_quiet (h : statement.quiet = true) (rows : List statement.Row) :
    standing.after ⟨statement, .ok rows⟩ = standing := by
  simp only [Statement.quiet, Bool.and_eq_true, Bool.not_eq_true'] at h
  simp [after, h.1, h.2]

theorem after_found (h : statement.checks = true) {rows : List statement.Row}
    (hrows : rows.isEmpty = false) : standing.after ⟨statement, .ok rows⟩ = standing.refuse := by
  simp [after, h, hrows]

theorem after_unfound (h : statement.writes = false) {rows : List statement.Row}
    (hrows : rows.isEmpty = true) : standing.after ⟨statement, .ok rows⟩ = standing := by
  simp [after, h, hrows]

theorem after_written (h : statement.writes = true) (hchecks : statement.checks = false)
    (rows : List statement.Row) :
    standing.after ⟨statement, .ok rows⟩ = standing.wrote statement := by
  simp [after, h, hchecks]

theorem after_violated (h : statement.contends = true) {raised : Raised}
    (hraised : raised.error = .uniqueViolation) :
    standing.after ⟨statement, .error raised⟩ = standing.refuse := by
  simp [after, h, hraised]

theorem after_raised {raised : Raised}
    (h : statement.contends = false ∨ raised.error ≠ .uniqueViolation) :
    standing.after ⟨statement, .error raised⟩ = standing.raise raised := by
  rcases h with h | h <;> simp [after, h]

theorem writes_after (standing : Standing) (exchange : Exchange) :
    (standing.after exchange).writes = standing.writes ∨
      exchange.error? = none ∧
        (standing.after exchange).writes = standing.writes ++ [exchange.statement] := by
  obtain ⟨statement, reply⟩ := exchange
  cases reply with
  | error raised =>
    refine Or.inl ?_
    simp only [after]
    split <;> rfl
  | ok rows =>
    simp only [after]
    split
    · exact Or.inl rfl
    · split
      · exact Or.inr ⟨rfl, rfl⟩
      · exact Or.inl rfl

theorem raised_after (standing : Standing) (exchange : Exchange) :
    ((standing.after exchange).raised = standing.raised ∧
        ∀ error ∈ exchange.error?, error = .uniqueViolation) ∨
      ∃ raised, (standing.after exchange).raised = some raised ∧
        exchange.error? = some raised.error ∧
        ¬ (raised.error = .uniqueViolation ∧ exchange.statement.contends = true) := by
  obtain ⟨statement, reply⟩ := exchange
  cases reply with
  | ok rows =>
    refine Or.inl ⟨?_, by simp [Exchange.error?]⟩
    simp only [after]
    split
    · rfl
    · split <;> rfl
  | error raised =>
    by_cases hrefused : raised.error = .uniqueViolation ∧ statement.contends = true
    · rw [after_violated hrefused.2 hrefused.1]
      exact Or.inl ⟨rfl, by simp [Exchange.error?, hrefused.1]⟩
    · refine Or.inr ⟨raised, ?_, rfl, hrefused⟩
      rw [after_raised]
      · rfl
      · by_cases hviolated : raised.error = .uniqueViolation
        · exact Or.inl (by simpa [hviolated] using hrefused)
        · exact Or.inr hviolated

end Standing

namespace Session

/-- What every end of the session satisfies, as long as each statement is answered as expected where
the session then stands. -/
def Leads (expected : Standing → Exchange → Prop)
    (ends : Except Failure α → Standing → Prop) : Session α → Supply → Standing → Prop
  | .done value, _, standing => ends (.ok value) standing
  | .fail failure, _, standing => ends (.error failure) standing
  | .draw next, supply, standing =>
    (next supply.next).Leads expected ends supply.advance standing
  | .send statement next, supply, standing =>
    ∀ reply, expected standing ⟨statement, reply⟩ →
      (next reply).Leads expected ends supply (standing.after ⟨statement, reply⟩)

/-- A session that draws nothing and sends quiet statements only. It ends with a value or a failure
of the given kinds, or passes on the error of a statement at once. -/
def Reads (expected : Exchange → Prop) (values : α → Prop) (failures : Failure → Prop) :
    Session α → Prop
  | .done value => values value
  | .fail failure => failures failure
  | .draw _ => False
  | .send statement next => statement.quiet = true ∧
      (∀ rows, expected ⟨statement, .ok rows⟩ →
        (next (.ok rows)).Reads expected values failures) ∧
      ∀ raised, next (.error raised) = .fail raised.failure

section Reads

variable {expected : Exchange → Prop} {values : α → Prop} {failures : Failure → Prop}

theorem Reads.bind {others : β → Prop} {s : Session α} {f : α → Session β}
    (hs : s.Reads expected values failures)
    (hf : ∀ value, values value → (f value).Reads expected others failures) :
    (s >>= f).Reads expected others failures := by
  change (s.bind f).Reads expected others failures
  induction s with
  | done value => exact hf value hs
  | fail failure => exact hs
  | draw next ih => exact hs.elim
  | send statement next ih =>
    refine ⟨hs.1, fun rows hrows => ih _ (hs.2.1 rows hrows), ?_⟩
    intro raised
    change (next (.error raised)).bind f = _
    rw [hs.2.2 raised]
    rfl

theorem query_reads {statement : Statement} (hquiet : statement.quiet = true)
    {values : List statement.Row → Prop}
    (h : ∀ rows, expected ⟨statement, .ok rows⟩ → values rows) :
    (query statement).Reads expected values failures :=
  ⟨hquiet, h, fun _ => rfl⟩

theorem execute_reads {statement : Statement} (hquiet : statement.quiet = true) :
    (execute statement).Reads expected (fun _ => True) failures :=
  (query_reads hquiet fun _ _ => trivial).bind fun _ _ => trivial

theorem ofExcept_reads {result : Except Failure α}
    (hok : ∀ value, result = .ok value → values value)
    (herror : ∀ failure, result = .error failure → failures failure) :
    (ofExcept result).Reads expected values failures := by
  cases result with
  | error failure => exact herror failure rfl
  | ok value => exact hok value rfl

end Reads

section Leads

variable {expected : Standing → Exchange → Prop} {ends : Except Failure β → Standing → Prop}
  {supply : Supply} {standing : Standing}

theorem Reads.leads {values : α → Prop} {failures : Failure → Prop} {s : Session α}
    {f : α → Session β} (hs : s.Reads (expected standing) values failures)
    (hfails : ∀ failure, failures failure → ends (.error failure) standing)
    (hraised : ∀ statement raised, statement.quiet = true →
      expected standing ⟨statement, .error raised⟩ →
        ends (.error raised.failure) (standing.raise raised))
    (hf : ∀ value, values value → (f value).Leads expected ends supply standing) :
    (s.bind f).Leads expected ends supply standing := by
  induction s with
  | done value => exact hf value hs
  | fail failure => exact hfails failure hs
  | draw next ih => exact hs.elim
  | send statement next ih =>
    obtain ⟨hquiet, hrows, herrors⟩ := hs
    intro reply hreply
    cases reply with
    | ok rows =>
      rw [Standing.after_quiet hquiet]
      exact ih (.ok rows) (hrows rows hreply)
    | error raised =>
      have hidle : statement.contends = false := by
        cases statement <;> first | rfl | simp [Statement.quiet, Statement.writes] at hquiet
      rw [Standing.after_raised (Or.inl hidle)]
      -- An error ends a session that reads, so nothing of what follows is run.
      change ((next (.error raised)).bind f).Leads expected ends supply _
      rw [herrors raised]
      exact hraised statement raised hquiet hreply

theorem check_leads {statement : Statement} (hchecks : statement.checks = true)
    {f : Bool → Session β}
    (hraised : ∀ raised, expected standing ⟨statement, .error raised⟩ →
      ends (.error raised.failure) (standing.raise raised))
    (hfound : (f true).Leads expected ends supply standing.refuse)
    (hfree : (f false).Leads expected ends supply standing) :
    ((query statement >>= fun rows => pure !rows.isEmpty).bind f).Leads expected ends supply
      standing := by
  have hreads : statement.writes = false ∧ statement.contends = false := by
    cases statement <;> first | exact ⟨rfl, rfl⟩ | simp [Statement.checks] at hchecks
  intro reply hreply
  cases reply with
  | error raised =>
    rw [Standing.after_raised (Or.inl hreads.2)]
    exact hraised raised hreply
  | ok rows =>
    change (f !rows.isEmpty).Leads expected ends supply _
    cases hrows : rows.isEmpty with
    | true =>
      rw [Standing.after_unfound hreads.1 hrows]
      exact hfree
    | false =>
      rw [Standing.after_found hchecks hrows]
      exact hfound

/-- A write that a unique index refuses ends the session with the failure that stands for it. -/
theorem executeUnique_leads {statement : Statement} (hcontends : statement.contends = true)
    {refused : Failure} {f : Unit → Session β}
    (hrefused : ends (.error refused) standing.refuse)
    (hraised : ∀ raised, raised.error ≠ .uniqueViolation →
      expected standing ⟨statement, .error raised⟩ →
        ends (.error raised.failure) (standing.raise raised))
    (hf : (f ()).Leads expected ends supply (standing.wrote statement)) :
    ((executeUnique statement refused).bind f).Leads expected ends supply standing := by
  have hwrites : statement.writes = true ∧ statement.checks = false := by
    cases statement <;> first | exact ⟨rfl, rfl⟩ | simp [Statement.contends] at hcontends
  intro reply hreply
  cases reply with
  | ok rows =>
    rw [Standing.after_written hwrites.1 hwrites.2]
    exact hf
  | error raised =>
    change Leads expected ends (.fail (if raised.error = .uniqueViolation then refused
      else raised.failure)) supply _
    by_cases hviolated : raised.error = .uniqueViolation
    · rw [if_pos hviolated, Standing.after_violated hcontends hviolated]
      exact hrefused
    · rw [if_neg hviolated, Standing.after_raised (Or.inr hviolated)]
      exact hraised raised hviolated hreply

theorem execute_leads {statement : Statement} (hwrites : statement.writes = true)
    (hidle : statement.contends = false) {f : Unit → Session β}
    (hraised : ∀ raised, expected standing ⟨statement, .error raised⟩ →
      ends (.error raised.failure) (standing.raise raised))
    (hf : (f ()).Leads expected ends supply (standing.wrote statement)) :
    ((execute statement).bind f).Leads expected ends supply standing := by
  have hchecks : statement.checks = false := by
    cases statement <;> first | rfl | simp [Statement.writes] at hwrites
  intro reply hreply
  cases reply with
  | ok rows =>
    rw [Standing.after_written hwrites hchecks]
    exact hf
  | error raised =>
    rw [Standing.after_raised (Or.inl hidle)]
    exact hraised raised hreply

theorem draw_leads {d : Draw α} {f : α → Transaction β}
    (h : (ofTransaction (f (d.run supply).1)).Leads expected ends (d.run supply).2 standing) :
    (ofTransaction (Transaction.ofDraw d >>= f)).Leads expected ends supply standing := by
  induction d generalizing supply with
  | done value => exact h
  | draw next ih => exact ih supply.next h

theorem Leads.mono {others : Except Failure β → Standing → Prop} {s : Session β}
    (h : s.Leads expected ends supply standing)
    (hends : ∀ result standing, ends result standing → others result standing) :
    s.Leads expected others supply standing := by
  induction s generalizing supply standing with
  | done value => exact hends _ _ h
  | fail failure => exact hends _ _ h
  | draw next ih => exact ih supply.next h
  | send statement next ih =>
    intro reply hreply
    exact ih reply (h reply hreply)

theorem Leads.ensured {values : β → Prop} {s : Session β}
    (h : s.Leads expected ends supply standing)
    (hs : s.Ensures values) :
    s.Leads expected
      (fun result standing => ends result standing ∧ ∀ value, result = .ok value → values value)
      supply standing := by
  induction s generalizing supply standing with
  | done value =>
    refine ⟨h, ?_⟩
    rintro _ ⟨⟩
    exact hs
  | fail failure => exact ⟨h, by simp⟩
  | draw next ih => exact ih supply.next h (hs supply.next)
  | send statement next ih =>
    intro reply hreply
    exact ih reply (h reply hreply) (hs reply)

end Leads
end Session

def Legible (scopeType : Text) : Prop :=
  (ScopeType.read? scopeType).isSome = true

instance (scopeType : Text) : Decidable (Legible scopeType) :=
  inferInstanceAs (Decidable (_ = true))

theorem scopeOf_error {type : Text} {id : Uuid} {failure : Failure}
    (h : scopeOf type id = .error failure) :
    ¬ Legible type ∧ failure = .unknownScopeType type := by
  unfold scopeOf at h
  unfold Legible
  cases hread : ScopeType.read? type with
  | none =>
    rw [hread] at h
    cases h
    exact ⟨by simp, rfl⟩
  | some read =>
    rw [hread] at h
    cases h

theorem RoleRow.toRole_error {row : RoleRow} {permissions : List Permission} {failure : Failure}
    (h : row.toRole permissions = .error failure) :
    ¬ Legible row.scopeType ∧ failure = .unknownScopeType row.scopeType := by
  unfold toRole at h
  generalize hread : scopeOf row.scopeType row.scopeId = read at h
  cases read with
  | error other =>
    cases h
    exact scopeOf_error hread
  | ok scope => cases h

theorem AssignmentRow.toAssignment_error {row : AssignmentRow} {failure : Failure}
    (h : row.toAssignment = .error failure) :
    ¬ Legible row.scopeType ∧ failure = .unknownScopeType row.scopeType := by
  unfold toAssignment at h
  generalize hread : scopeOf row.scopeType row.scopeId = read at h
  cases read with
  | error other =>
    cases h
    exact scopeOf_error hread
  | ok scope => cases h

namespace Repository

variable {expected : Exchange → Prop} {failures : Failure → Prop}

theorem permissionsOf_reads (roles : List Uuid) :
    (permissionsOf roles).Reads expected (fun _ => True) failures := by
  cases roles with
  | nil => trivial
  | cons role rest => exact Session.query_reads rfl fun _ _ => trivial

theorem insertPermissions_reads (permissions : List Permission) :
    (insertPermissions permissions).Reads expected (fun _ => True) failures := by
  cases permissions with
  | nil => trivial
  | cons permission rest => exact Session.execute_reads rfl

theorem countByRole_reads {role : Uuid}
    (hcount : ∀ rows, expected ⟨.countAssignments role, .ok rows⟩ →
      ∀ cell ∈ (rows : List Cell).head?, ∃ count : Int, cell = .int count) :
    (ofOperation (.countByRole role)).Reads expected (fun _ => True) failures := by
  have hquery : (Session.query (.countAssignments role)).Reads expected
      (fun rows => ∀ cell ∈ (rows : List Cell).head?, ∃ count : Int, cell = .int count) failures :=
    Session.query_reads rfl hcount
  have hcell : (countByRole role).Reads expected (fun cell => ∃ count : Int, cell = .int count)
      failures := by
    apply hquery.bind
    intro rows hrows
    cases rows with
    | nil => exact ⟨0, rfl⟩
    | cons cell rest => exact hrows cell rfl
  apply hcell.bind
  rintro _ ⟨count, rfl⟩
  trivial

theorem findRole_reads {id : Uuid} {values : Option Role → Prop} (hnone : values none)
    (hvalue : ∀ row rest, expected ⟨.selectRole id, .ok (row :: rest)⟩ →
      ∀ role : Role, role.id = RoleRow.id row → values (some role))
    (hscope : ∀ row rest, expected ⟨.selectRole id, .ok (row :: rest)⟩ →
      ¬ Legible (RoleRow.scopeType row) → ∀ text, failures (.unknownScopeType text)) :
    (findRole id).Reads expected values failures := by
  have hquery : (Session.query (.selectRole id)).Reads expected
      (fun rows => expected ⟨.selectRole id, .ok rows⟩) failures :=
    Session.query_reads rfl fun _ hrows => hrows
  apply hquery.bind
  intro rows hrows
  cases rows with
  | nil => exact hnone
  | cons row rest =>
    apply Session.Reads.bind (permissionsOf_reads [RoleRow.id row])
    intro permissions _
    generalize hread : RoleRow.toRole row (ownedBy permissions (RoleRow.id row)) = result
    cases result with
    | error failure =>
      obtain ⟨hillegible, rfl⟩ := RoleRow.toRole_error hread
      exact hscope row rest hrows hillegible _
    | ok role => exact hvalue row rest hrows role (RoleRow.toRole_ok hread).1

theorem joined_error {permissions : List Permission} {row : AssignmentRow} {roleRow : RoleRow}
    {failure : Failure}
    (h : (do
      let assignment ← row.toAssignment
      let role ← roleRow.toRole (ownedBy permissions row.role)
      return (⟨assignment, some role⟩ : Grant)) = .error failure) :
    ¬ (Legible row.scopeType ∧ Legible roleRow.scopeType) ∧
      ∃ text, failure = .unknownScopeType text := by
  generalize hassignment : row.toAssignment = assignment at h
  cases assignment with
  | error other =>
    cases h
    obtain ⟨hillegible, hfailure⟩ := AssignmentRow.toAssignment_error hassignment
    exact ⟨fun hboth => hillegible hboth.1, _, hfailure⟩
  | ok assignment =>
    generalize hrole : roleRow.toRole (ownedBy permissions row.role) = role at h
    cases role with
    | error other =>
      cases h
      obtain ⟨hillegible, hfailure⟩ := RoleRow.toRole_error hrole
      exact ⟨fun hboth => hillegible hboth.2, _, hfailure⟩
    | ok role => cases h

theorem findAssignment_reads {id : Uuid} {values : Option Grant → Prop}
    (hnone : expected ⟨.selectAssignment id, .ok []⟩ → values none)
    (hvalue : ∀ grant, values (some grant))
    (hscope : ∀ rows, expected ⟨.selectAssignment id, .ok rows⟩ →
      ∀ joined ∈ (rows : List (AssignmentRow × RoleRow)),
        ¬ (Legible joined.1.scopeType ∧ Legible joined.2.scopeType) →
          ∀ text, failures (.unknownScopeType text)) :
    (findAssignment id).Reads expected values failures := by
  have hquery : (Session.query (.selectAssignment id)).Reads expected
      (fun rows => expected ⟨.selectAssignment id, .ok rows⟩) failures :=
    Session.query_reads rfl fun _ hrows => hrows
  apply hquery.bind
  intro rows hrows
  have hgrants : (loadGrants rows).Reads expected (fun grants => values grants.head?) failures := by
    apply (permissionsOf_reads _).bind
    intro permissions _
    apply Session.ofExcept_reads
    · intro grants hgrants
      cases grants with
      | nil =>
        obtain rfl := inputs_of_mapM_nil hgrants
        exact hnone hrows
      | cons grant rest => exact hvalue grant
    · intro failure hfails
      obtain ⟨⟨row, roleRow⟩, hmem, hfailed⟩ := error_of_mapM hfails
      obtain ⟨hillegible, text, rfl⟩ := joined_error hfailed
      exact hscope rows hrows _ hmem hillegible text
  exact hgrants.bind fun grants hgrants => hgrants

end Repository
end Rbac.Sql
