import Rbac.Proofs.Concurrency.Contention

namespace Rbac

/-- The conflict that a request can end in, if there is one. -/
def Request.conflict? : Request → Option Failure
  | .createRole command => some (.nameTaken command.name)
  | .updateRole command => some (.nameTaken command.name)
  | .assignRole _ => some .alreadyAssigned
  | .deleteRole _ | .revokeRole _ | .getRole _ | .listRoles _ | .checkPermission _
  | .userPermissions _ => none

theorem Request.conflict_message {request : Request} {conflict : Failure}
    (h : request.conflict? = some conflict) : ∃ message, conflict = .conflict message := by
  cases request <;> cases h <;> exact ⟨_, rfl⟩

theorem Request.exists_conflict (request : Request) :
    ∃ conflict, ∀ own ∈ request.conflict?, own = conflict := by
  cases request.conflict? with
  | none => exact ⟨.alreadyAssigned, by simp⟩
  | some own => exact ⟨own, by simp⟩

def Failure.IsOther (failure : Failure) : Prop :=
  ∀ message, failure ≠ .conflict message

def Operation.loads : Operation → Bool
  | .findRole _ | .rolesIn _ | .findAssignment _ | .grantOf .. | .grantsOf .. | .countByRole _ =>
      true
  | .nameTaken .. | .isAssigned .. | .insertRole _ | .keepRole _ | .saveRole _ | .deleteRole _
  | .insertAssignment _ | .deleteAssignment _ => false

end Rbac

namespace Rbac.Sql

variable {α : Type}

/-- Whether an exchange is a refusal: a check that finds a record, or a unique index that a write
violates. -/
def Exchange.refuses (exchange : Exchange) : Bool :=
  match exchange.reply with
  | .ok rows => exchange.statement.checks && !rows.isEmpty
  | .error raised => exchange.statement.contends && decide (raised.error = .uniqueViolation)

namespace Session

def exchanges : Session α → Connection → List Exchange
  | .done _, _ | .fail _, _ => []
  | .draw next, connection =>
    (next connection.supply.next).exchanges { connection with supply := connection.supply.advance }
  | .send statement next, connection =>
    ⟨statement, connection.answer 0 statement⟩ ::
      (next (connection.answer 0 statement)).exchanges (connection.past statement)

theorem log_exchanges (s : Session α) (connection : Connection) :
    (s.run connection).2.log =
      connection.log ++ (s.exchanges connection).map fun exchange => .sent exchange.statement := by
  induction s generalizing connection with
  | done value => simp [run, exchanges]
  | fail failure => simp [run, exchanges]
  | draw next ih => exact ih connection.supply.next _
  | send statement next ih =>
    rw [run, Connection.send_eq]
    exact (ih _ (connection.past statement)).trans (by simp [exchanges, Connection.past])

theorem exchanges_answered {s : Session α} {connection : Connection} {sent : Nat}
    {exchange : Exchange} (h : (s.exchanges connection)[sent]? = some exchange) :
    exchange.reply = connection.answer sent exchange.statement := by
  induction s generalizing connection sent with
  | done value => simp [exchanges] at h
  | fail failure => simp [exchanges] at h
  | draw next ih =>
    have hrest := ih connection.supply.next h
    exact hrest
  | send statement next ih =>
    cases sent with
    | zero =>
      simp only [exchanges, List.getElem?_cons_zero, Option.some.injEq] at h
      subst h
      rfl
    | succ sent =>
      rw [← connection.answer_past statement]
      exact ih _ (by simpa [exchanges] using h)

theorem StopsAtError.exchanges_last {s : Session α} (h : s.StopsAtError) {connection : Connection}
    {exchange : Exchange} (hin : exchange ∈ s.exchanges connection) {raised : Raised}
    (hraised : exchange.reply = .error raised) :
    ∃ earlier, s.exchanges connection = earlier ++ [exchange] := by
  induction s generalizing connection with
  | done value => cases hin
  | fail failure => cases hin
  | draw next ih => exact ih _ (h _) hin
  | send statement next ih =>
    rw [exchanges] at hin ⊢
    cases hreply : connection.answer 0 statement with
    | error first =>
      obtain ⟨failure, hfail⟩ := h.2 first
      rw [hreply, hfail, exchanges, List.mem_singleton] at hin
      rw [hfail, exchanges, hin]
      exact ⟨[], rfl⟩
    | ok rows =>
      rw [hreply, List.mem_cons] at hin
      rcases hin with rfl | hlater
      · cases hraised
      · obtain ⟨earlier, hearlier⟩ := ih _ (h.1 rows) hlater
        exact ⟨_ :: earlier, by rw [hearlier]; rfl⟩

/-- What a session leads to whatever it is answered is where its run ends. -/
theorem Leads.ends_run {ends : Except Failure α → Standing → Prop} {s : Session α}
    {connection : Connection} {standing : Standing}
    (h : s.Leads (fun _ _ => True) ends connection.supply standing) :
    ends (s.run connection).1 ((s.exchanges connection).foldl .after standing) := by
  induction s generalizing connection standing with
  | done value => exact h
  | fail failure => exact h
  | draw next ih => exact ih connection.supply.next h
  | send statement next ih =>
    rw [run, Connection.send_eq]
    exact ih _ (h _ trivial)

end Session

namespace Standing

theorem refused_after (standing : Standing) (exchange : Exchange) :
    (standing.after exchange).refused = (standing.refused || exchange.refuses) := by
  obtain ⟨statement, reply⟩ := exchange
  cases reply with
  | ok rows =>
    simp only [after, Exchange.refuses]
    split
    · simp_all [refuse]
    · split <;> simp_all [wrote]
  | error raised =>
    simp only [after, Exchange.refuses]
    split
    · simp_all [refuse]
    · simp_all [raise]

theorem refused_foldl (exchanges : List Exchange) (standing : Standing) :
    (exchanges.foldl after standing).refused =
      (standing.refused || exchanges.any Exchange.refuses) := by
  induction exchanges generalizing standing with
  | nil => simp
  | cons exchange rest ih => rw [List.foldl_cons, ih, refused_after, List.any_cons, Bool.or_assoc]

theorem raised_of_unrefused (standing : Standing) {exchange : Exchange} {raised : Raised}
    (hraised : exchange.reply = .error raised) (h : exchange.refuses = false) :
    (standing.after exchange).raised = some raised := by
  obtain ⟨statement, reply⟩ := exchange
  obtain rfl : reply = .error raised := hraised
  simp only [Exchange.refuses] at h
  simp [after, h, raise]

end Standing

namespace Repository

variable {expected : Exchange → Prop} {failures : Failure → Prop}

theorem loadGrants_reads (hscope : ∀ text, failures (.unknownScopeType text))
    (rows : List (AssignmentRow × RoleRow)) :
    (loadGrants rows).Reads expected (fun _ => True) failures := by
  apply (permissionsOf_reads _).bind
  intro permissions _
  apply Session.ofExcept_reads fun _ _ => trivial
  intro failure hfails
  obtain ⟨⟨row, roleRow⟩, _, hfailed⟩ := error_of_mapM hfails
  obtain ⟨_, text, rfl⟩ := joined_error hfailed
  exact hscope text

theorem rolesIn_reads (hscope : ∀ text, failures (.unknownScopeType text)) (scope : Scope) :
    (rolesIn scope).Reads expected (fun _ => True) failures := by
  have hquery : (Session.query (.selectRolesIn scope)).Reads expected (fun _ => True) failures :=
    Session.query_reads rfl fun _ _ => trivial
  apply hquery.bind
  intro rows _
  apply Session.Reads.bind (permissionsOf_reads _)
  intro permissions _
  apply Session.ofExcept_reads fun _ _ => trivial
  intro failure hfails
  obtain ⟨row, _, hfailed⟩ := error_of_mapM hfails
  obtain ⟨_, rfl⟩ := RoleRow.toRole_error hfailed
  exact hscope _

theorem countOf_error {cell : Cell} {failure : Failure} (h : countOf cell = .error failure) :
    ∃ message, failure = .wrongType message := by
  cases cell with
  | int value => cases h
  | bool value => cases h
  | real value => cases h
  | _ => exact ⟨_, (Except.error.inj h).symm⟩

end Repository

/-- Whatever the database answers, loading says nothing but queries, and it fails only on what
cannot be read, if no statement is answered with an error. -/
theorem ofOperation_reads {expected : Exchange → Prop} {failures : Failure → Prop}
    (hscope : ∀ text, failures (.unknownScopeType text))
    (htype : ∀ message, failures (.wrongType message)) {operation : Operation}
    (h : operation.loads = true) :
    (ofOperation operation).Reads expected (fun _ => True) failures := by
  have hquery : ∀ statement : Statement, statement.quiet = true →
      (Session.query statement).Reads expected (fun _ => True) failures :=
    fun _ hquiet => Session.query_reads hquiet fun _ _ => trivial
  cases operation with
  | findRole id =>
    exact Repository.findRole_reads trivial (fun _ _ _ _ _ => trivial) fun _ _ _ _ => hscope
  | rolesIn scope => exact Repository.rolesIn_reads hscope scope
  | findAssignment id =>
    exact (hquery _ rfl).bind fun rows _ =>
      (Repository.loadGrants_reads hscope rows).bind fun _ _ => trivial
  | grantOf role user scopeId =>
    exact (hquery _ rfl).bind fun rows _ =>
      (Repository.loadGrants_reads hscope rows).bind fun _ _ => trivial
  | grantsOf user scopeId =>
    exact (hquery _ rfl).bind fun rows _ => Repository.loadGrants_reads hscope rows
  | countByRole role =>
    have hcell : (Repository.countByRole role).Reads expected (fun _ => True) failures :=
      (hquery _ rfl).bind fun _ _ => trivial
    apply hcell.bind
    intro cell _
    apply Session.ofExcept_reads fun _ _ => trivial
    intro failure hfailed
    obtain ⟨message, rfl⟩ := Repository.countOf_error hfailed
    exact htype message
  | _ => cases h

section Requests

variable {expected : Standing → Exchange → Prop} {conflict : Failure} {supply : Supply}
  {standing : Standing}

/-- What is said of a request over a database that may answer anything. -/
abbrev AccountedAnyhow (conflict : Failure) :
    Except Failure (Except Failure (Outcome Answer)) → Standing → Prop :=
  Accounted conflict Failure.IsOther fun _ _ => True

theorem loads_anyhow {expected : Exchange → Prop} {operation : Operation}
    (h : operation.loads = true) :
    (ofOperation operation).Reads expected (fun _ => True) Failure.IsOther :=
  ofOperation_reads (by simp [Failure.IsOther, Failure.unknownScopeType])
    (by simp [Failure.IsOther]) h

theorem loading_accounted {operation : Operation} (h : operation.loads = true)
    {f : operation.Answer → UseCase}
    (hf : ∀ answer, (∃ failure, f answer = .fail failure ∧ failure.IsOther) ∨
      ∃ shown, f answer = .done shown) :
    (ofTransaction (Transaction.request operation >>= f)).Leads expected
      (AccountedAnyhow conflict) supply .blank := by
  have hblank := Standing.blank_clear
  change ((ofOperation operation).bind fun answer => ofTransaction (f answer)).Leads _ _ _ _
  apply Accounted.read hblank (loads_anyhow h)
  intro answer _
  rcases hf answer with ⟨failure, hfails, hother⟩ | ⟨shown, hdone⟩
  · rw [hfails]
    exact Accounted.denial hblank hother
  · rw [hdone]
    exact ⟨rfl, rfl, fun _ _ => trivial⟩

theorem revokeRole_accounted (command : RevokeRole) (clock : Clock) :
    (ofTransaction (UseCase.revokeRole command clock)).Leads expected (AccountedAnyhow conflict)
      supply .blank := by
  have hblank := Standing.blank_clear
  change ((ofOperation (.grantOf command.role command.user command.scopeId)).bind
    fun found => ofTransaction _).Leads _ _ _ _
  apply Accounted.read hblank (loads_anyhow rfl)
  intro found _
  cases found with
  | none => exact Accounted.denial hblank (by simp [Failure.IsOther, Failure.grantMissing])
  | some grant =>
    change ((Session.execute (.deleteAssignment grant.assignment.id)).bind
      fun _ => ofTransaction _).Leads _ _ _ _
    apply Accounted.write hblank rfl rfl
    exact Accounted.answer (hblank.wrote _) trivial

/-- Every request stands to the database as its account says, with its own conflict if it has one.
-/
theorem useCase_accounted (request : Request) (clock : Clock)
    (h : ∀ own ∈ request.conflict?, own = conflict) :
    (ofTransaction (request.useCase clock)).Leads expected (AccountedAnyhow conflict) supply
      .blank := by
  have hdomain : ∀ message, (Failure.domain message).IsOther := by simp [Failure.IsOther]
  have hmissing : ∀ entity key, (Failure.notFound entity key).IsOther := by simp [Failure.IsOther]
  cases request with
  | createRole command =>
    obtain rfl := h _ rfl
    exact Accounted.weaken (fun _ _ _ => trivial)
      (createRole_accounted clock supply command hdomain)
  | updateRole command =>
    obtain rfl := h _ rfl
    apply Accounted.weaken (fun _ _ _ => trivial) (updateRole_accounted clock supply command
      (fun _ => True) (hmissing _ _) hdomain ?_)
    exact Repository.findRole_reads (fun _ _ => trivial) (fun _ _ _ _ _ _ _ => trivial)
      fun _ _ _ _ => by simp [Failure.IsOther, Failure.unknownScopeType]
  | deleteRole id =>
    apply Accounted.weaken (fun _ _ _ => trivial) (deleteRole_accounted clock supply id
      (fun _ => True) conflict (hmissing _ _) (hdomain _) (hdomain _) ?_ ?_)
    · exact Repository.findRole_reads (fun _ _ => trivial) (fun _ _ _ _ _ _ _ => trivial)
        fun _ _ _ _ => by simp [Failure.IsOther, Failure.unknownScopeType]
    · exact fun role _ => loads_anyhow rfl
  | assignRole command =>
    obtain rfl := h _ rfl
    have hrole : (Repository.findRole command.role).Reads (expected .blank) (fun _ => True)
        Failure.IsOther := Repository.findRole_reads trivial (fun _ _ _ _ _ => trivial)
      fun _ _ _ _ => by simp [Failure.IsOther, Failure.unknownScopeType]
    apply Accounted.weaken (fun _ _ _ => trivial) (assignRole_accounted clock supply command
      (hmissing _ _) (hdomain _) hrole ?_)
    intro assignment
    exact Repository.findAssignment_reads (fun _ _ => hmissing _ _) (by simp)
      fun _ _ _ _ _ => by simp [Failure.IsOther, Failure.unknownScopeType]
  | revokeRole command => exact revokeRole_accounted command clock
  | getRole id =>
    apply loading_accounted rfl
    intro found
    cases found with
    | none => exact Or.inl ⟨_, rfl, hmissing _ _⟩
    | some role => exact Or.inr ⟨_, rfl⟩
  | listRoles scope => exact loading_accounted rfl fun _ => Or.inr ⟨_, rfl⟩
  | checkPermission query => exact loading_accounted rfl fun _ => Or.inr ⟨_, rfl⟩
  | userPermissions query => exact loading_accounted rfl fun _ => Or.inr ⟨_, rfl⟩

end Requests

def LogEntry.ending : Except Failure (Outcome Answer) → LogEntry
  | .ok _ => .commit
  | .error _ => .rollback

/-- What passed between a step and the database: the statements in the log, each with the answer
that the script has for it. -/
structure Heard (before after : Connection) (result : Except Failure (Outcome Answer))
    (exchanges : List Exchange) : Prop where
  log : after.log = before.log ++
    (exchanges.map (fun exchange => .sent exchange.statement) ++ [.ending result])
  answered : ∀ sent exchange, exchanges[sent]? = some exchange →
    exchange.reply = before.answer sent exchange.statement

/-- How the result of a step goes with what passed: it is a conflict just if an exchange was a
refusal, and then it is the request's own; an error of the database that is no refusal is passed on
unchanged. -/
structure Judged (request : Request) (result : Except Failure (Outcome Answer))
    (exchanges : List Exchange) : Prop where
  conflict_iff : (∃ message, result = .error (.conflict message)) ↔
    ∃ exchange ∈ exchanges, exchange.refuses = true
  own : ∀ message, result = .error (.conflict message) →
    request.conflict? = some (.conflict message)
  passedOn : ∀ exchange ∈ exchanges, ∀ raised, exchange.reply = .error raised →
    exchange.refuses = false → result = .error raised.failure

section Judging

variable {request : Request} {failure conflict : Failure} {standing : Standing}

theorem own_of_refused
    (h : ∀ conflict, (∀ own ∈ request.conflict?, own = conflict) →
      AccountedAnyhow conflict (.error failure) standing)
    (hrefused : standing.refused = true) : request.conflict? = some failure := by
  cases hown : request.conflict? with
  | some own =>
    obtain ⟨_, rfl⟩ := (h own (by simp [hown])).of_refused hrefused
    rfl
  | none =>
    -- A request without a conflict would fail with any conflict that is chosen for it.
    have hfree : ∀ conflict, failure = conflict :=
      fun conflict => ((h conflict (by simp [hown])).of_refused hrefused).2
    cases (hfree .alreadyAssigned).symm.trans (hfree .roleInUse)

theorem isOther_of_unrefused (h : AccountedAnyhow conflict (.error failure) standing)
    (hrefused : standing.refused = false) : failure.IsOther := by
  rw [AccountedAnyhow, Accounted, hrefused] at h
  cases hraised : standing.raised with
  | none =>
    rw [hraised] at h
    exact h
  | some raised =>
    rw [hraised] at h
    obtain rfl : failure = raised.failure := h
    simp [Failure.IsOther, Raised.failure]

theorem passedOn_of_raised {result : Except Failure (Except Failure (Outcome Answer))}
    (h : AccountedAnyhow conflict result standing) {raised : Raised}
    (hraised : standing.raised = some raised) : result = .error raised.failure := by
  cases result with
  | ok answer =>
    obtain ⟨_, hnone, _⟩ := h
    rw [hraised] at hnone
    cases hnone
  | error failure =>
    rcases h.cases_error with ⟨hnone, _⟩ | ⟨other, hother, rfl⟩
    · rw [hraised] at hnone
      cases hnone
    · rw [hraised] at hother
      rw [Option.some.inj hother]

theorem Session.judged {s : Session (Except Failure (Outcome Answer))} {before : Connection}
    (hstops : s.StopsAtError) (hshown : s.Ensures UseCase.Shown)
    (h : ∀ conflict, (∀ own ∈ request.conflict?, own = conflict) →
      s.Leads (fun _ _ => True) (AccountedAnyhow conflict) before.supply .blank)
    {result : Except Failure (Outcome Answer)}
    (hresult : result = match (s.run before).1 with
      | .ok answer => answer
      | .error failure => .error failure) :
    Judged request result (s.exchanges before) := by
  have haccount := fun conflict hown => (h conflict hown).ends_run
  have hshows := Session.run_ensures hshown before
  have hrefused := Standing.refused_foldl (s.exchanges before) .blank
  have hpassed : ∀ exchange ∈ s.exchanges before, ∀ raised, exchange.reply = .error raised →
      exchange.refuses = false → (s.run before).1 = .error raised.failure := by
    intro exchange hin raised hraised hunrefused
    obtain ⟨conflict, hown⟩ := request.exists_conflict
    obtain ⟨earlier, hearlier⟩ := hstops.exchanges_last hin hraised
    have hany := haccount conflict hown
    rw [hearlier, List.foldl_append] at hany
    exact passedOn_of_raised hany (Standing.raised_of_unrefused _ hraised hunrefused)
  generalize (s.exchanges before).foldl Standing.after .blank = standing at haccount hrefused
  have hany : standing.refused = true ↔
      ∃ exchange ∈ s.exchanges before, exchange.refuses = true := by
    rw [hrefused, Standing.blank, Bool.false_or, List.any_eq_true]
  rcases hrun : (s.run before).1 with failure | answer
  · rw [hrun] at hresult haccount hpassed
    obtain rfl : result = .error failure := hresult
    obtain ⟨conflict, hown⟩ := request.exists_conflict
    have hconflict : (∃ message, failure = .conflict message) → standing.refused = true := by
      rintro ⟨message, hmessage⟩
      by_contra hunrefused
      exact isOther_of_unrefused (haccount conflict hown) (by simpa using hunrefused) message
        hmessage
    refine ⟨?_, ?_, ?_⟩
    · rw [← hany]
      constructor
      · rintro ⟨message, hmessage⟩
        exact hconflict ⟨message, Except.error.inj hmessage⟩
      · intro hwas
        obtain ⟨message, rfl⟩ := Request.conflict_message (own_of_refused haccount hwas)
        exact ⟨message, rfl⟩
    · intro message hmessage
      obtain rfl := Except.error.inj hmessage
      exact own_of_refused haccount (hconflict ⟨message, rfl⟩)
    · intro exchange hin raised hraised hunrefused
      exact congrArg Except.error
        (Except.error.inj (hpassed exchange hin raised hraised hunrefused))
  · rw [hrun] at hresult haccount hpassed
    obtain ⟨outcome, houtcome⟩ := hshows answer hrun
    obtain rfl : result = .ok outcome := hresult.trans houtcome
    obtain ⟨conflict, hown⟩ := request.exists_conflict
    refine ⟨?_, by simp, ?_⟩
    · rw [← hany, (haccount conflict hown).1]
      simp
    · intro exchange hin raised hraised hunrefused
      cases hpassed exchange hin raised hraised hunrefused

end Judging

theorem Connection.execute_judged (request : Request) (clock : Clock) (before : Connection) :
    ∃ exchanges, Heard before (execute (request.useCase clock) before).2
        (execute (request.useCase clock) before).1 exchanges ∧
      Judged request (execute (request.useCase clock) before).1 exchanges := by
  have hlog := (ofTransaction (request.useCase clock)).log_exchanges before
  have hshown := (UseCase.shown clock request).ofTransaction
  have hresult : (execute (request.useCase clock) before).1 =
      match ((ofTransaction (request.useCase clock)).run before).1 with
      | .ok answer => answer
      | .error failure => .error failure := by
    unfold execute
    rcases (ofTransaction (request.useCase clock)).run before with ⟨failure | answer, after⟩
    · rfl
    · rfl
  have hjudged := Session.judged (ofTransaction_stops (request.useCase clock)) hshown
    (fun _ hown => useCase_accounted request clock hown) hresult
  refine ⟨_, ⟨?_, fun _ _ => Session.exchanges_answered⟩, hjudged⟩
  have hshows := Session.run_ensures hshown before
  rcases hrun : (ofTransaction (request.useCase clock)).run before with ⟨failure | answer, after⟩
  · simp only [hrun] at hlog
    simp [execute, hrun, note, hlog, LogEntry.ending]
  · simp only [hrun] at hlog
    obtain ⟨outcome, rfl⟩ := hshows answer (by rw [hrun])
    simp [execute, hrun, note, hlog, LogEntry.ending]

/-- Whatever the database answers to a step that passes the rules, the step ends in a conflict just
if a check for a record in the way was answered with a row, or a write of a role or an assignment
was answered with a violation of a unique index. The conflict names what the request itself asked
for. A violation that is the answer to any other statement, and every other error, is passed on as
it was raised. -/
theorem conflict_iff_refused (pattern : Pattern) (step : World.Step) (before : Connection)
    (h : step.direct = true ∨ Validation.breaches pattern step.request = []) :
    ∃ exchanges, Heard before (Connection.step pattern step before).2
        (Connection.step pattern step before).1 exchanges ∧
      Judged step.request (Connection.step pattern step before).1 exchanges := by
  obtain ⟨request, clock, direct⟩ := step
  obtain ⟨exchanges, ⟨hlog, hanswered⟩, hjudged⟩ :=
    Connection.execute_judged request clock before
  refine ⟨exchanges, ?_⟩
  cases direct with
  | true => exact ⟨⟨hlog, hanswered⟩, hjudged⟩
  | false =>
    have hvalid : Validation.breaches pattern request = [] := h.resolve_left Bool.false_ne_true
    rw [Connection.step_valid hvalid]
    exact ⟨⟨hlog, hanswered⟩, hjudged⟩

def nameChange : World.Step :=
  ⟨.updateRole ⟨Uuid.ofNat 1, "writer", none, []⟩, .epoch, false⟩

/-- The role is there and its new name is free. After some calm answers to its writes the database
reports a violation of a unique index. -/
def violatedAfter (calm : Nat) : Connection where
  supply := .after 100
  replies :=
    let role : RoleRow := ⟨Uuid.ofNat 1, "reader", none, Uuid.ofNat 7, "organization", false,
      .epoch, none⟩
    [.ok [role.cells], .ok [], .ok []] ++ List.replicate calm (.ok []) ++
      [.error ⟨.uniqueViolation, "duplicate key"⟩]

/-- A violation that answers the write of the role is a conflict over the name that was asked for;
one that answers the next statement is passed on. -/
theorem conflict_iff_refused_name_change :
    let ended := fun calm =>
      Connection.step (.star false (.one .dot)) nameChange (violatedAfter calm)
    Validation.breaches (.star false (.one .dot)) nameChange.request = [] ∧
      (ended 0).1 = .error (.nameTaken "writer") ∧
      (∃ exchanges, Heard (violatedAfter 0) (ended 0).2 (ended 0).1 exchanges ∧
        ∃ exchange ∈ exchanges, exchange.refuses = true) ∧
      (ended 1).1 = .error (.database .uniqueViolation "duplicate key") ∧
      ∃ exchanges, Heard (violatedAfter 1) (ended 1).2 (ended 1).1 exchanges ∧
        ¬ ∃ exchange ∈ exchanges, exchange.refuses = true := by
  intro ended
  have hvalid : Validation.breaches (.star false (.one .dot)) nameChange.request = [] := by
    decide +kernel
  have hwritten : (ended 0).1 = .error (.nameTaken "writer") := by decide +kernel
  have hnext : (ended 1).1 = .error (.database .uniqueViolation "duplicate key") := by
    decide +kernel
  obtain ⟨first, hfirst, hconflict, _, _⟩ :=
    conflict_iff_refused (.star false (.one .dot)) nameChange (violatedAfter 0) (Or.inr hvalid)
  obtain ⟨second, hsecond, hother, _, _⟩ :=
    conflict_iff_refused (.star false (.one .dot)) nameChange (violatedAfter 1) (Or.inr hvalid)
  refine ⟨hvalid, hwritten, ⟨first, hfirst, hconflict.mp ⟨_, hwritten⟩⟩, hnext,
    ⟨second, hsecond, ?_⟩⟩
  intro hrefused
  obtain ⟨message, hmessage⟩ := hother.mpr hrefused
  cases hnext.symm.trans hmessage

end Rbac.Sql
