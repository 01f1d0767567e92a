import Rbac.Proofs.Bracket
import Rbac.Proofs.Database.Meaning

namespace Rbac.Sql

variable {α : Type}

/-- What the tables answer to the statements of a session, in turn. -/
def Session.answers (engine : Engine) : Session α → Tables → Supply → List Scripted
  | .done _, _, _ | .fail _, _, _ => []
  | .draw next, tables, supply => (next supply.next).answers engine tables supply.advance
  | .send statement next, tables, supply =>
    let (scripted, tables) := tables.answer engine statement
    scripted :: (next (scripted.reply statement)).answers engine tables supply

/-- Over a connection on which the tables answer a session ends as it does over the tables. -/
theorem Session.run_answers {engine : Engine} {s : Session α} {tables : Tables}
    {connection : Connection}
    (h : connection.replies = s.answers engine tables connection.supply) :
    (s.run connection).1 = (s.perform engine tables connection.supply).1 ∧
      (s.run connection).2.supply = (s.perform engine tables connection.supply).2.2 ∧
      (s.run connection).2.published = connection.published := by
  induction s generalizing tables connection with
  | done value => exact ⟨rfl, rfl, rfl⟩
  | fail failure => exact ⟨rfl, rfl, rfl⟩
  | draw next ih =>
    exact @ih connection.supply.next tables
      { connection with supply := connection.supply.advance } h
  | send statement next ih =>
    have hanswer : connection.answer 0 statement =
        (tables.answer engine statement).1.reply statement := by
      simp [Connection.answer, h, answers]
    simp only [run, Connection.send_eq, perform, hanswer]
    apply @ih _ _ (connection.past statement)
    simp [Connection.past, h, answers]

/-- The service over a database: its tables, the identifiers it draws, and the events that it has
published. -/
structure Site where
  tables : Tables
  supply : Supply
  published : List Event := []

namespace Site

def blank (supply : Supply) : Site :=
  { tables := .empty, supply }

def connection (engine : Engine) (step : World.Step) (site : Site) : Connection where
  replies :=
    (ofTransaction (step.request.useCase step.clock)).answers engine site.tables site.supply
  supply := site.supply
  published := site.published

/-- One step: a request under a clock, dispatched or run directly. Rolling back undoes what its
statements have done to the tables. -/
def step (engine : Engine) (pattern : Pattern) (step : World.Step) (site : Site) :
    Except Failure (Outcome Answer) × Site :=
  let session := ofTransaction (step.request.useCase step.clock)
  let (result, after) := Connection.step pattern step (site.connection engine step)
  let tables :=
    match after.log.getLast? with
    | some .commit => (session.perform engine site.tables site.supply).2.1
    | _ => site.tables
  (result, { tables, supply := after.supply, published := after.published })

def after (engine : Engine) (pattern : Pattern) (steps : List World.Step) (site : Site) : Site :=
  steps.foldl (fun site step => (Site.step engine pattern step site).2) site

def history (engine : Engine) (pattern : Pattern) : List World.Step → Site → List World.Entry
  | [], _ => []
  | step :: rest, site =>
    ⟨step, (Site.step engine pattern step site).1⟩ ::
      history engine pattern rest (Site.step engine pattern step site).2

theorem after_append (engine : Engine) (pattern : Pattern) (steps more : List World.Step)
    (site : Site) :
    after engine pattern (steps ++ more) site =
      after engine pattern more (after engine pattern steps site) := by
  simp [after]

theorem history_append (engine : Engine) (pattern : Pattern) (steps more : List World.Step)
    (site : Site) :
    history engine pattern (steps ++ more) site =
      history engine pattern steps site ++
        history engine pattern more (after engine pattern steps site) := by
  induction steps generalizing site with
  | nil => rfl
  | cons first rest ih => simp [history, ih, after]

theorem step_invalid {pattern : Pattern} {request : Request}
    (h : Validation.breaches pattern request ≠ []) (engine : Engine) (clock : Clock)
    (site : Site) :
    step engine pattern ⟨request, clock, false⟩ site =
      (.error (.invalid (Validation.group (Validation.breaches pattern request))), site) := by
  rw [step, Connection.step_invalid h]
  rfl

/-- The session of a dispatched request that keeps the rules is performed over the tables. Its
events are published, or it fails and the tables are what they were. -/
theorem step_valid {pattern : Pattern} {request : Request}
    (h : Validation.breaches pattern request = []) (engine : Engine) (clock : Clock)
    (site : Site) :
    step engine pattern ⟨request, clock, false⟩ site =
      match (ofTransaction (request.useCase clock)).perform engine site.tables site.supply with
      | (.ok answer, tables, supply) =>
        (answer, { tables, supply, published := site.published ++ World.told answer })
      | (.error failure, _, supply) => (.error failure, { site with supply }) := by
  have hreplies : (site.connection engine ⟨request, clock, false⟩).replies =
      (ofTransaction (request.useCase clock)).answers engine site.tables
        (site.connection engine ⟨request, clock, false⟩).supply := rfl
  obtain ⟨hresult, hsupply, hpublished⟩ := Session.run_answers hreplies
  change _ = (Session.perform engine _ site.tables site.supply).1 at hresult
  change _ = (Session.perform engine _ site.tables site.supply).2.2 at hsupply
  change _ = site.published at hpublished
  simp only [step, Connection.step_valid h, Connection.execute]
  generalize (ofTransaction (request.useCase clock)).perform engine site.tables site.supply =
    performed at hresult hsupply ⊢
  generalize (ofTransaction (request.useCase clock)).run
    (site.connection engine ⟨request, clock, false⟩) = ran at hresult hsupply hpublished ⊢
  obtain ⟨result, tables, supply⟩ := performed
  obtain ⟨ended, connection⟩ := ran
  obtain rfl : ended = result := hresult
  obtain rfl : connection.supply = supply := hsupply
  cases ended with
  | error failure => simp [Connection.note, Connection.tell, World.told, ← hpublished]
  | ok answer => simp [Connection.note, Connection.tell, ← hpublished]

end Site
end Rbac.Sql
