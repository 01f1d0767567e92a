import Mathlib.Data.Fintype.Basic
import Rbac.Proofs.Bracket
import Rbac.Proofs.Concurrency.Standing

namespace Rbac.Sql

/-- One who enters a race: a request to be dispatched, with the connection that it runs over. -/
structure Entrant where
  request : Request
  clock : Clock
  connection : Connection

def Entrant.step (pattern : Pattern) (entrant : Entrant) :
    Except Failure (Outcome Answer) × Connection :=
  Connection.step pattern ⟨entrant.request, entrant.clock, false⟩ entrant.connection

/-- How far a party of a race has come. -/
inductive Stage where
  | running (session : Session (Except Failure (Outcome Answer)))
  | committed (answer : Except Failure (Outcome Answer))
  | rolledBack (failure : Failure)
  /-- The rules of the request turned it away before anything was sent. -/
  | turnedAway (errors : List (String × List String))

namespace Stage

def ending : Stage → List LogEntry
  | .committed _ => [.commit]
  | .rolledBack _ => [.rollback]
  | .running _ | .turnedAway _ => []

def told : Stage → List Event
  | .committed answer => World.told answer
  | .running _ | .rolledBack _ | .turnedAway _ => []

def result? : Stage → Option (Except Failure (Outcome Answer))
  | .running _ => none
  | .committed answer => some answer
  | .rolledBack failure => some (.error failure)
  | .turnedAway errors => some (.error (.invalid errors))

end Stage

/-- A party of a race, with the replies that it has heard. -/
structure Party where
  stage : Stage
  connection : Connection
  heard : List Exchange := []

namespace Party

def start (pattern : Pattern) (entrant : Entrant) : Party :=
  match Validation.breaches pattern entrant.request with
  | [] => ⟨.running (ofTransaction (entrant.request.useCase entrant.clock)), entrant.connection, []⟩
  | broken => ⟨.turnedAway (Validation.group broken), entrant.connection, []⟩

def standing (party : Party) : Standing :=
  party.heard.foldl .after .blank

/-- The statement that the party sends at its next turn, with the reply to it. -/
def exchange? (party : Party) : Option Exchange :=
  match party.stage with
  | .running (.send statement _) => some ⟨statement, party.connection.answer 0 statement⟩
  | _ => none

/-- One turn: an identifier is drawn, a statement is sent and answered, or the unit of work ends,
and with a commit its events are published. -/
def turn (party : Party) : Party :=
  match party.stage with
  | .running (.done answer) =>
    ⟨.committed answer, (party.connection.note .commit).tell (World.told answer), party.heard⟩
  | .running (.fail failure) =>
    ⟨.rolledBack failure, party.connection.note .rollback, party.heard⟩
  | .running (.draw next) =>
    ⟨.running (next party.connection.supply.next),
      { party.connection with supply := party.connection.supply.advance }, party.heard⟩
  | .running (.send statement next) =>
    ⟨.running (next (party.connection.answer 0 statement)), party.connection.past statement,
      party.heard ++ [⟨statement, party.connection.answer 0 statement⟩]⟩
  | .committed _ | .rolledBack _ | .turnedAway _ => party

def finish (party : Party) : Except Failure (Outcome Answer) × Connection :=
  match party.stage with
  | .running session =>
    match session.run party.connection with
    | (.ok answer, connection) => (answer, (connection.note .commit).tell (World.told answer))
    | (.error failure, connection) => (.error failure, connection.note .rollback)
  | .committed answer => (answer, party.connection)
  | .rolledBack failure => (.error failure, party.connection)
  | .turnedAway errors => (.error (.invalid errors), party.connection)

theorem finish_start (pattern : Pattern) (entrant : Entrant) :
    (start pattern entrant).finish = entrant.step pattern := by
  cases hrules : Validation.breaches pattern entrant.request with
  | nil =>
    rw [Entrant.step, Connection.step_valid hrules]
    simp only [start, hrules, finish, Connection.execute]
    rcases (ofTransaction (entrant.request.useCase entrant.clock)).run entrant.connection with
      ⟨failure | answer, after⟩
    · simp [World.told]
    · rfl
  | cons breach rest =>
    have hbroken : Validation.breaches pattern entrant.request ≠ [] := by simp [hrules]
    rw [Entrant.step, Connection.step_invalid hbroken]
    simp only [start, hrules, finish]

theorem finish_turn (party : Party) : party.turn.finish = party.finish := by
  obtain ⟨stage, connection, heard⟩ := party
  cases stage with
  | running session =>
    cases session with
    | done answer => rfl
    | fail failure => rfl
    | draw next => rfl
    | send statement next =>
      simp only [turn, finish, Session.run, Connection.send_eq]
  | committed answer => rfl
  | rolledBack failure => rfl
  | turnedAway errors => rfl

theorem finish_ended {party : Party} {result : Except Failure (Outcome Answer)}
    (h : party.stage.result? = some result) : party.finish = (result, party.connection) := by
  obtain ⟨stage, connection, heard⟩ := party
  cases stage with
  | running session => cases h
  | committed answer =>
    cases h
    rfl
  | rolledBack failure =>
    cases h
    rfl
  | turnedAway errors =>
    cases h
    rfl

theorem standing_turn (party : Party) :
    party.turn.standing = party.exchange?.elim party.standing party.standing.after := by
  obtain ⟨stage, connection, heard⟩ := party
  cases stage with
  | running session =>
    cases session with
    | send statement next => simp [turn, exchange?, standing]
    | _ => rfl
  | _ => rfl

theorem heard_turn (party : Party) :
    party.turn.heard = party.heard ++ party.exchange?.toList := by
  obtain ⟨stage, connection, heard⟩ := party
  cases stage with
  | running session =>
    cases session with
    | send statement next => rfl
    | _ => simp [turn, exchange?]
  | _ => simp [turn, exchange?]

/-- What the party has written, unless it is taken back. -/
def live (party : Party) : List Statement :=
  match party.stage with
  | .running _ | .committed _ => party.standing.writes
  | .rolledBack _ | .turnedAway _ => []

/-- A turn adds no write but one that was not answered with an error. -/
theorem live_turn {party : Party} {statement : Statement} (h : statement ∈ party.turn.live) :
    statement ∈ party.live ∨
      ∃ exchange ∈ party.exchange?, exchange.error? = none ∧ exchange.statement = statement := by
  have hstanding := party.standing_turn
  obtain ⟨stage, connection, heard⟩ := party
  cases stage with
  | running session =>
    cases session with
    | done answer => exact Or.inl h
    | fail failure => cases h
    | draw next => exact Or.inl h
    | send sent next =>
      change statement ∈ (standing _).writes at h
      rw [hstanding, exchange?, Option.elim_some] at h
      rcases Standing.writes_after (standing ⟨.running (.send sent next), connection, heard⟩)
        ⟨sent, connection.answer 0 sent⟩ with hsame | ⟨hok, hadded⟩
      · rw [hsame] at h
        exact Or.inl h
      · rw [hadded, List.mem_append, List.mem_singleton] at h
        rcases h with hbefore | rfl
        · exact Or.inl hbefore
        · exact Or.inr ⟨_, rfl, hok, rfl⟩
  | committed answer => exact Or.inl h
  | rolledBack failure => cases h
  | turnedAway errors => cases h

/-- What a party has left on the connection it was given: its statements and its ending in the log,
and its events. -/
structure Logged (entrant : Entrant) (party : Party) : Prop where
  log : party.connection.log = entrant.connection.log ++
    (party.heard.map (fun exchange => .sent exchange.statement) ++ party.stage.ending)
  published : party.connection.published = entrant.connection.published ++ party.stage.told

theorem start_logged (pattern : Pattern) (entrant : Entrant) :
    (start pattern entrant).Logged entrant := by
  unfold start
  split <;> exact ⟨by simp [Stage.ending], by simp [Stage.told]⟩

theorem Logged.turn {entrant : Entrant} {party : Party} (h : party.Logged entrant) :
    party.turn.Logged entrant := by
  obtain ⟨stage, connection, heard⟩ := party
  obtain ⟨hlog, hpublished⟩ := h
  cases stage with
  | running session =>
    simp only [Stage.ending, Stage.told, List.append_nil] at hlog hpublished
    cases session with
    | done answer =>
      exact ⟨by simp [Party.turn, Connection.tell, Connection.note, hlog, Stage.ending],
        by simp [Party.turn, Connection.tell, Connection.note, hpublished, Stage.told]⟩
    | fail failure =>
      exact ⟨by simp [Party.turn, Connection.note, hlog, Stage.ending],
        by simp [Party.turn, Connection.note, hpublished, Stage.told]⟩
    | draw next =>
      exact ⟨by simp [Party.turn, hlog, Stage.ending],
        by simp [Party.turn, hpublished, Stage.told]⟩
    | send statement next =>
      exact ⟨by simp [Party.turn, Connection.past, hlog, Stage.ending],
        by simp [Party.turn, Connection.past, hpublished, Stage.told]⟩
  | committed answer => exact ⟨hlog, hpublished⟩
  | rolledBack failure => exact ⟨hlog, hpublished⟩
  | turnedAway errors => exact ⟨hlog, hpublished⟩

/-- What the party leads to: what is left of its session, where it now stands, or its end. -/
def Led (expected : Standing → Exchange → Prop)
    (ends : Except Failure (Except Failure (Outcome Answer)) → Standing → Prop)
    (party : Party) : Prop :=
  match party.stage with
  | .running session => session.Leads expected ends party.connection.supply party.standing
  | .committed answer => ends (.ok answer) party.standing
  | .rolledBack failure => ends (.error failure) party.standing
  | .turnedAway _ => party.heard = []

variable {expected : Standing → Exchange → Prop}
  {ends : Except Failure (Except Failure (Outcome Answer)) → Standing → Prop}

/-- An answer never fails once it is given, so an account of a session can count on that. -/
theorem start_led (pattern : Pattern) {entrant : Entrant}
    (h : (ofTransaction (entrant.request.useCase entrant.clock)).Leads expected ends
      entrant.connection.supply .blank) :
    (start pattern entrant).Led expected fun result standing =>
      ends result standing ∧ ∀ answer, result = .ok answer → UseCase.Shown answer := by
  have hshown := h.ensured (UseCase.shown entrant.clock entrant.request).ofTransaction
  unfold start
  split
  · exact hshown
  · rfl

theorem Led.turn {party : Party} (h : party.Led expected ends)
    (hexpected : ∀ exchange ∈ party.exchange?, expected party.standing exchange) :
    party.turn.Led expected ends := by
  have hstanding := party.standing_turn
  obtain ⟨stage, connection, heard⟩ := party
  cases stage with
  | running session =>
    cases session with
    | done answer => exact h
    | fail failure => exact h
    | draw next => exact h
    | send statement next =>
      change (next _).Leads expected ends connection.supply _
      rw [hstanding]
      exact h _ (hexpected _ rfl)
  | committed answer => exact h
  | rolledBack failure => exact h
  | turnedAway errors => exact h

end Party

abbrev Race (ι : Type) := ι → Party

namespace Race

variable {ι : Type}

def start (pattern : Pattern) (entrants : ι → Entrant) : Race ι :=
  fun i => .start pattern (entrants i)

variable [DecidableEq ι]

def turn (race : Race ι) (i : ι) : Race ι :=
  Function.update race i (race i).turn

def after (schedule : List ι) (race : Race ι) : Race ι :=
  schedule.foldl turn race

/-- Whether each statement is answered by the rule, given how the race stands at that moment. -/
def Lawful (rule : Race ι → ι → Exchange → Prop) : List ι → Race ι → Prop
  | [], _ => True
  | i :: rest, race =>
    (∀ exchange ∈ (race i).exchange?, rule race i exchange) ∧ Lawful rule rest (race.turn i)

instance Lawful.decidable (rule : Race ι → ι → Exchange → Prop)
    [∀ race i exchange, Decidable (rule race i exchange)] :
    ∀ schedule race, Decidable (Lawful rule schedule race)
  | [], _ => isTrue trivial
  | i :: rest, race =>
    have := decidable rule rest (race.turn i)
    inferInstanceAs (Decidable (_ ∧ _))

@[simp] theorem turn_self (race : Race ι) (i : ι) : race.turn i i = (race i).turn := by
  simp [turn]

theorem turn_other (race : Race ι) {i j : ι} (h : j ≠ i) : race.turn i j = race j := by
  simp [turn, h]

variable {rule : Race ι → ι → Exchange → Prop}

theorem Lawful.keeps {P : Race ι → Prop}
    (hturn : ∀ race i, P race → (∀ exchange ∈ (race i).exchange?, rule race i exchange) →
      P (race.turn i)) {schedule : List ι} {race : Race ι} (hlawful : Lawful rule schedule race)
    (h : P race) : P (race.after schedule) := by
  induction schedule generalizing race with
  | nil => exact h
  | cons i rest ih => exact ih hlawful.2 (hturn race i h hlawful.1)

theorem Lawful.keeps_at {P : Party → Prop} (i : ι)
    (hturn : ∀ race : Race ι, P (race i) →
      (∀ exchange ∈ (race i).exchange?, rule race i exchange) → P (race i).turn)
    {schedule : List ι} {race : Race ι} (hlawful : Lawful rule schedule race) (h : P (race i)) :
    P (race.after schedule i) := by
  apply hlawful.keeps (P := fun race => P (race i)) ?_ h
  intro race j hrace hrule
  by_cases hj : i = j
  · subst hj
    rw [turn_self]
    exact hturn race hrace hrule
  · rw [turn_other race hj]
    exact hrace

variable {pattern : Pattern} {entrants : ι → Entrant} {schedule : List ι}

/-- Whether no two parties have live writes that clash. -/
def Exclusive (clash : Statement → Statement → Prop) (race : Race ι) : Prop :=
  ∀ i j, i ≠ j → ∀ a ∈ (race i).live, ∀ b ∈ (race j).live, ¬ clash a b

/-- Whether a statement clashes with a live write of another party. -/
def Blocked (clash : Statement → Statement → Prop) (race : Race ι) (i : ι) (statement : Statement) :
    Prop :=
  ∃ j, j ≠ i ∧ ∃ held ∈ (race j).live, clash statement held

instance [Fintype ι] (clash : Statement → Statement → Prop) [DecidableRel clash] (race : Race ι)
    (i : ι) (statement : Statement) : Decidable (race.Blocked clash i statement) :=
  inferInstanceAs (Decidable (∃ j, j ≠ i ∧ ∃ held ∈ (race j).live, clash statement held))

omit [DecidableEq ι] in
theorem start_exclusive (clash : Statement → Statement → Prop) :
    (start pattern entrants).Exclusive clash := by
  intro i j _ a ha
  have hnothing : (start pattern entrants i).live = [] := by
    unfold start Party.start
    split <;> rfl
  rw [hnothing] at ha
  cases ha

theorem Exclusive.turn {clash : Statement → Statement → Prop} (hsymm : ∀ a b, clash a b → clash b a)
    {race : Race ι} (h : race.Exclusive clash) (i : ι)
    (hrule : ∀ exchange ∈ (race i).exchange?, race.Blocked clash i exchange.statement →
      exchange.error? ≠ none) : (race.turn i).Exclusive clash := by
  -- Only the party that moves can have a new write, so each clash is looked at from its side.
  have hmoved : ∀ j, j ≠ i → ∀ a ∈ ((race i).turn).live, ∀ b ∈ (race j).live, ¬ clash a b := by
    intro j hj a ha b hb hclash
    rcases Party.live_turn ha with hbefore | ⟨exchange, hexchange, hok, rfl⟩
    · exact h i j (Ne.symm hj) a hbefore b hb hclash
    · exact hrule exchange hexchange ⟨j, hj, b, hb, hclash⟩ hok
  intro j k hne a ha b hb hclash
  by_cases hj : j = i
  · subst hj
    rw [turn_self] at ha
    rw [turn_other race hne.symm] at hb
    exact hmoved k hne.symm a ha b hb hclash
  · rw [turn_other race hj] at ha
    by_cases hk : k = i
    · subst hk
      rw [turn_self] at hb
      exact hmoved j hne b hb a ha (hsymm a b hclash)
    · rw [turn_other race hk] at hb
      exact h j k hne a ha b hb hclash

/-- Where every blocked statement is answered with an error, a race stays exclusive. -/
theorem Lawful.exclusive {clash : Statement → Statement → Prop} {error : DatabaseError}
    (hlawful : Lawful rule schedule (start pattern entrants))
    (hsymm : ∀ a b, clash a b → clash b a)
    (hrule : ∀ race i exchange, rule race i exchange →
      Blocked clash race i exchange.statement → exchange.error? = some error) :
    ((start pattern entrants).after schedule).Exclusive clash := by
  apply hlawful.keeps ?_ (start_exclusive clash)
  intro race i hrace hexchanges
  apply hrace.turn hsymm i
  intro exchange hexchange hblocked hok
  have hrefused := hrule race i exchange (hexchanges exchange hexchange) hblocked
  rw [hok] at hrefused
  cases hrefused

theorem lawful_of_forall (hrule : ∀ race i exchange, rule race i exchange) (schedule : List ι)
    (race : Race ι) : Lawful rule schedule race := by
  induction schedule generalizing race with
  | nil => trivial
  | cons i rest ih => exact ⟨fun exchange _ => hrule race i exchange, ih (race.turn i)⟩

/-- A party that has ended has done what its step does over its connection alone. -/
theorem step_of_ended {i : ι} {result : Except Failure (Outcome Answer)}
    (h : ((start pattern entrants).after schedule i).stage.result? = some result) :
    (entrants i).step pattern =
      (result, ((start pattern entrants).after schedule i).connection) := by
  -- A turn is part of running on, however it is answered, so any rule will do.
  have hlawful : Lawful (fun _ _ _ => True) schedule (start pattern entrants) :=
    lawful_of_forall (fun _ _ _ => trivial) schedule _
  have hfinish := hlawful.keeps_at (P := fun party => party.finish = (entrants i).step pattern) i
    (fun race hrace _ => (race i).finish_turn.trans hrace)
    (Party.finish_start pattern (entrants i))
  rw [← hfinish]
  exact Party.finish_ended h

theorem Lawful.logged (hlawful : Lawful rule schedule (start pattern entrants)) (i : ι) :
    ((start pattern entrants).after schedule i).Logged (entrants i) :=
  hlawful.keeps_at (P := fun party => party.Logged (entrants i)) i
    (fun _ hrace _ => hrace.turn) (Party.start_logged pattern (entrants i))

end Race
end Rbac.Sql
