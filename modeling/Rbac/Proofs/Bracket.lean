import Rbac.Proofs.Dispatching
import Rbac.Proofs.Runs
import Rbac.Proofs.Sessions
import Rbac.Sql.Connection

namespace Rbac.UseCase

/-- An answer that does not fail once it is given. -/
def Shown (answer : Except Failure (Outcome Answer)) : Prop :=
  ∃ outcome, answer = .ok outcome

variable (clock : Clock)

theorem createRole_shown (command : CreateRole) : (createRole command clock).Ensures Shown := by
  apply Transaction.Ensures.bind
  intro taken
  cases taken with
  | true => trivial
  | false =>
    apply Transaction.Ensures.bind
    intro made
    apply Transaction.Ensures.bind
    intro role
    apply Transaction.Ensures.bind
    intro _
    exact ⟨_, rfl⟩

theorem updateRole_shown (command : UpdateRole) : (updateRole command clock).Ensures Shown := by
  apply Transaction.Ensures.bind
  intro found
  cases found with
  | none => trivial
  | some role =>
    apply Transaction.Ensures.bind
    intro taken
    cases taken with
    | true => trivial
    | false =>
      apply Transaction.Ensures.bind
      intro renamed
      apply Transaction.Ensures.bind
      intro synced
      apply Transaction.Ensures.bind
      intro _
      apply Transaction.Ensures.bind
      intro _
      apply Transaction.Ensures.bind
      intro _
      exact ⟨_, rfl⟩

theorem deleteRole_shown (id : Uuid) : (deleteRole id clock).Ensures Shown := by
  apply Transaction.Ensures.bind
  intro found
  cases found with
  | none => trivial
  | some role =>
    apply Transaction.Ensures.bind
    intro held
    split
    · trivial
    · apply Transaction.Ensures.bind
      intro deleted
      apply Transaction.Ensures.bind
      intro _
      exact ⟨_, rfl⟩

theorem assignRole_shown (command : AssignRole) : (assignRole command clock).Ensures Shown := by
  apply Transaction.Ensures.bind
  intro found
  cases found with
  | none => trivial
  | some role =>
    dsimp only
    split
    · trivial
    · apply Transaction.Ensures.bind
      intro assigned
      cases assigned with
      | true => trivial
      | false =>
        apply Transaction.Ensures.bind
        intro made
        apply Transaction.Ensures.bind
        intro _ saved hjoined
        cases saved with
        | none => trivial
        | some grant =>
          obtain ⟨role, hrole⟩ := Option.isSome_iff_exists.mp (hjoined grant rfl)
          change Shown (grant.view.map _)
          simp only [Grant.view, hrole]
          exact ⟨_, rfl⟩

theorem revokeRole_shown (command : RevokeRole) : (revokeRole command clock).Ensures Shown := by
  apply Transaction.Ensures.bind
  intro found
  cases found with
  | none => trivial
  | some grant =>
    apply Transaction.Ensures.bind
    intro _
    exact ⟨_, rfl⟩

theorem getRole_shown (id : Uuid) : (getRole id).Ensures Shown := by
  apply Transaction.Ensures.bind
  intro found
  cases found with
  | none => trivial
  | some role => exact ⟨_, rfl⟩

/-- What a use case answers over a database never fails once it is committed. -/
theorem shown (request : Request) : (request.useCase clock).Ensures Shown := by
  cases request with
  | createRole command => exact createRole_shown clock command
  | updateRole command => exact updateRole_shown clock command
  | deleteRole id => exact deleteRole_shown clock id
  | assignRole command => exact assignRole_shown clock command
  | revokeRole command => exact revokeRole_shown clock command
  | getRole id => exact getRole_shown id
  | listRoles scope => exact Transaction.Ensures.bind _ fun _ => ⟨_, rfl⟩
  | checkPermission query => exact Transaction.Ensures.bind _ fun _ => ⟨_, rfl⟩
  | userPermissions query => exact Transaction.Ensures.bind _ fun _ => ⟨_, rfl⟩

end Rbac.UseCase

namespace Rbac.Sql

variable {α : Type}

/-- What the script of a connection answers to a statement that is sent after a number of others. -/
def Connection.answer (connection : Connection) (sent : Nat) (statement : Statement) :
    Reply statement :=
  match connection.replies[sent]? with
  | none => .ok []
  | some scripted => scripted.reply statement

def Connection.past (statement : Statement) (connection : Connection) : Connection :=
  { connection with
    replies := connection.replies.tail, log := connection.log ++ [.sent statement] }

theorem Connection.send_eq (connection : Connection) (statement : Statement) :
    connection.send statement = (connection.answer 0 statement, connection.past statement) := by
  cases hr : connection.replies with
  | nil => simp [send, answer, past, note, hr]
  | cons scripted rest => simp [send, answer, past, note, hr]

theorem Connection.answer_past (connection : Connection) (statement other : Statement)
    (sent : Nat) :
    (connection.past statement).answer sent other = connection.answer (sent + 1) other := by
  simp [answer, past, List.getElem?_tail]

namespace Session

/-- A session that stops at errors logs the statements that it sends and nothing else, and one that
is answered with an error is its last. -/
theorem run_log {s : Session α} (h : s.StopsAtError) (connection : Connection) :
    ∃ statements : List Statement,
      (s.run connection).2.log = connection.log ++ statements.map .sent ∧
      (s.run connection).2.published = connection.published ∧
      ∀ sent statement raised, statements[sent]? = some statement →
        connection.answer sent statement = .error raised →
        sent + 1 = statements.length ∧ ∃ failure, (s.run connection).1 = .error failure := by
  induction s generalizing connection with
  | done value => exact ⟨[], by simp [run], rfl, by simp⟩
  | fail failure => exact ⟨[], by simp [run], rfl, by simp⟩
  | draw next ih => exact ih connection.supply.next (h connection.supply.next) _
  | send statement next ih =>
    simp only [run, Connection.send_eq]
    cases hreply : connection.answer 0 statement with
    | error raised =>
      obtain ⟨failure, hfail⟩ := h.2 raised
      rw [hfail]
      refine ⟨[statement], rfl, rfl, ?_⟩
      intro sent other _ hsent _
      cases sent with
      | zero => exact ⟨rfl, failure, rfl⟩
      | succ sent => simp at hsent
    | ok rows =>
      obtain ⟨statements, hlog, hpublished, hlast⟩ :=
        ih (.ok rows) (h.1 rows) (connection.past statement)
      refine ⟨statement :: statements, hlog.trans (by simp [Connection.past]), hpublished, ?_⟩
      intro sent other raised hsent hother
      cases sent with
      | zero =>
        simp only [List.getElem?_cons_zero, Option.some.injEq] at hsent
        subst hsent
        rw [hreply] at hother
        cases hother
      | succ sent =>
        rw [← connection.answer_past statement] at hother
        obtain ⟨hlength, hfails⟩ := hlast sent other raised (by simpa using hsent) hother
        exact ⟨by simp [hlength], hfails⟩

theorem run_ensures {P : α → Prop} {s : Session α} (h : s.Ensures P) (connection : Connection) :
    ∀ value, (s.run connection).1 = .ok value → P value := by
  induction s generalizing connection with
  | done value =>
    intro other hother
    cases hother
    exact h
  | fail failure =>
    intro other hother
    cases hother
  | draw next ih => exact ih connection.supply.next (h connection.supply.next) _
  | send statement next ih =>
    simp only [run]
    exact ih _ (h _) _

end Session

/-- What a unit of work leaves in the log: the statements it sent and then its ending, which is a
commit just if it gave a result and a rollback just if it failed. A statement answered with an error
is the last before a rollback. -/
structure Bracketed (before after : Connection) (result : Except Failure (Outcome Answer))
    (statements : List Statement) (ending : LogEntry) : Prop where
  log : after.log = before.log ++ (statements.map .sent ++ [ending])
  commit_iff : ending = .commit ↔ ∃ outcome, result = .ok outcome
  rollback_iff : ending = .rollback ↔ ∃ failure, result = .error failure
  stops : ∀ sent statement raised, statements[sent]? = some statement →
    before.answer sent statement = .error raised →
    sent + 1 = statements.length ∧ ending = .rollback
  publishes : after.published ≠ before.published → ending = .commit

namespace Connection

/-- Every unit of work leaves its bracket. -/
theorem execute_bracketed (request : Request) (clock : Clock) (before : Connection) :
    ∃ statements ending, Bracketed before (execute (request.useCase clock) before).2
      (execute (request.useCase clock) before).1 statements ending := by
  obtain ⟨statements, hlog, hpublished, hstops⟩ :=
    Session.run_log (ofTransaction_stops (request.useCase clock)) before
  have hshown := Session.run_ensures (UseCase.shown clock request).ofTransaction before
  rcases hrun : (ofTransaction (request.useCase clock)).run before with ⟨failure | answer, after⟩
  · simp only [hrun] at hlog hpublished
    have hexecute : execute (request.useCase clock) before =
        (.error failure, after.note .rollback) := by
      simp only [execute, hrun]
    rw [hexecute]
    refine ⟨statements, .rollback, ?_, by simp, by simp, ?_, ?_⟩
    · simp [note, hlog]
    · intro sent statement raised hsent hraised
      exact ⟨(hstops sent statement raised hsent hraised).1, rfl⟩
    · intro hne
      exact absurd hpublished hne
  · simp only [hrun] at hlog hstops
    obtain ⟨outcome, rfl⟩ := hshown answer (by rw [hrun])
    have hexecute : execute (request.useCase clock) before = (.ok outcome, after.note .commit) := by
      simp only [execute, hrun]
    rw [hexecute]
    refine ⟨statements, .commit, ?_, by simp, by simp, ?_, fun _ => rfl⟩
    · simp [note, hlog]
    · intro sent statement raised hsent hraised
      obtain ⟨_, failure, hfailed⟩ := hstops sent statement raised hsent hraised
      cases hfailed

def tell (connection : Connection) (events : List Event) : Connection :=
  { connection with published := connection.published ++ events }

@[simp] theorem tell_nil (connection : Connection) : connection.tell [] = connection := by
  simp [tell]

def step (pattern : Pattern) (step : World.Step) (connection : Connection) :
    Except Failure (Outcome Answer) × Connection :=
  let dispatcher := dispatcher pattern step.clock
  if step.direct then dispatcher.direct step.request connection
  else dispatcher.dispatch step.request connection

theorem step_invalid {pattern : Pattern} {request : Request}
    (h : Validation.breaches pattern request ≠ []) (clock : Clock) (connection : Connection) :
    step pattern ⟨request, clock, false⟩ connection =
      (.error (.invalid (Validation.group (Validation.breaches pattern request))), connection) :=
  Service.dispatch_invalid h execute (some publish) clock connection

theorem step_valid {pattern : Pattern} {request : Request}
    (h : Validation.breaches pattern request = []) (clock : Clock) (connection : Connection) :
    step pattern ⟨request, clock, false⟩ connection =
      ((execute (request.useCase clock) connection).1,
        (execute (request.useCase clock) connection).2.tell
          (World.told (execute (request.useCase clock) connection).1)) := by
  have hpublish : ∀ events connection,
      publish events connection = (.ok (), connection.tell events) := fun _ _ => rfl
  have hdispatch : step pattern ⟨request, clock, false⟩ connection = _ :=
    Service.dispatch_told h (fun events connection => connection.tell events) hpublish tell_nil
      execute clock connection
  rw [hdispatch]
  rcases execute (request.useCase clock) connection with ⟨failure | outcome, after⟩
  · simp [World.told]
  · rfl

end Connection

theorem Bracketed.told {before after : Connection} {result : Except Failure (Outcome Answer)}
    {statements : List Statement} {ending : LogEntry}
    (h : Bracketed before after result statements ending) :
    Bracketed before (after.tell (World.told result)) result statements ending := by
  cases result with
  | error failure =>
    rw [World.told, after.tell_nil]
    exact h
  | ok outcome =>
    exact ⟨h.log, h.commit_iff, h.rollback_iff, h.stops,
      fun _ => h.commit_iff.mpr ⟨outcome, rfl⟩⟩

/-- Whatever the database answers, a step over a connection is turned away by the rules of the
request and leaves the connection alone, or it leaves one bracket in the log: statements, then a
commit just if the step has a result, or a rollback just if it fails. An error of the database is
the answer to the last statement, and nothing is published without a commit. -/
theorem step_bracketed (pattern : Pattern) (step : World.Step) (before : Connection) :
    let result := (Connection.step pattern step before).1
    let after := (Connection.step pattern step before).2
    (step.direct = false ∧ Validation.breaches pattern step.request ≠ [] ∧ after = before ∧
        ∃ errors, result = .error (.invalid errors)) ∨
      ((step.direct = true ∨ Validation.breaches pattern step.request = []) ∧
        ∃ statements ending, Bracketed before after result statements ending) := by
  obtain ⟨request, clock, direct⟩ := step
  intro result after
  obtain ⟨statements, ending, hbracket⟩ := Connection.execute_bracketed request clock before
  cases direct with
  | true => exact Or.inr ⟨Or.inl rfl, statements, ending, hbracket⟩
  | false =>
    by_cases hvalid : Validation.breaches pattern request = []
    · refine Or.inr ⟨Or.inr hvalid, statements, ending, ?_⟩
      have hstep := Connection.step_valid hvalid clock before
      have hresult : result = _ := congrArg Prod.fst hstep
      have hafter : after = _ := congrArg Prod.snd hstep
      rw [hresult, hafter]
      exact hbracket.told
    · obtain ⟨hresult, hafter⟩ := Prod.mk.inj (Connection.step_invalid hvalid clock before)
      exact Or.inl ⟨rfl, hvalid, hafter, _, hresult⟩

end Rbac.Sql
