import Rbac.Dispatch
import Rbac.Proofs.Grouping

namespace Rbac

/-- What a dispatcher runs: the handler of a type on a request, or the publisher on events. -/
inductive Activity (ρ κ : Type) where
  | handled (type : κ) (request : ρ)
  | published (events : List Event)

namespace Dispatcher

variable {ρ κ σ α : Type}

/-- The dispatcher with handlers and a publisher that note when they run. -/
def watched (dispatcher : Dispatcher ρ κ σ α) :
    Dispatcher ρ κ (σ × List (Activity ρ κ)) α where
  type := dispatcher.type
  typeName := dispatcher.typeName
  handlers type := (dispatcher.handlers type).map fun handle request (state, log) =>
    let (result, after) := handle request state
    (result, after, log ++ [.handled type request])
  validators := dispatcher.validators
  publish := dispatcher.publish.map fun publish events (state, log) =>
    let (result, after) := publish events state
    (result, after, log ++ [.published events])

def dispatchAll (dispatcher : Dispatcher ρ κ σ α) :
    List ρ → σ → List (Except Failure (Outcome α)) × σ
  | [], state => ([], state)
  | request :: rest, state =>
    let (result, state) := dispatcher.dispatch request state
    let (results, state) := dispatcher.dispatchAll rest state
    (result :: results, state)

def breaches (dispatcher : Dispatcher ρ κ σ α) (request : ρ) : List Breach :=
  (dispatcher.validators (dispatcher.type request)).flatMap (· request)

/-- How an outcome can be announced: what is answered, the state after it, and what has run for it.
-/
inductive Announced (dispatcher : Dispatcher ρ κ σ α) (outcome : Outcome α) (state : σ) :
    Except Failure (Outcome α) → σ → List (Activity ρ κ) → Prop where
  /-- There is nothing to publish, or no one to take it. -/
  | kept :
    dispatcher.publish = none ∨ outcome.events = none ∨ outcome.events = some [] →
    Announced dispatcher outcome state (.ok outcome) state []
  /-- All the events are published at once; the outcome is answered unless publishing fails. -/
  | published {publish : Publish σ} {events : List Event} {reply : Except Failure Unit}
      {after : σ} :
    dispatcher.publish = some publish → outcome.events = some events → events ≠ [] →
    publish events state = (reply, after) →
    Announced dispatcher outcome state (reply.map fun _ => outcome) after [.published events]

/-- How a request can end: its result, the state after it, and what has run for it. -/
inductive Dispatched (dispatcher : Dispatcher ρ κ σ α) (request : ρ) (state : σ) :
    Except Failure (Outcome α) → σ → List (Activity ρ κ) → Prop where
  /-- No handler is registered for the type, whatever validators there are. -/
  | unregistered :
    dispatcher.handlers (dispatcher.type request) = none →
    Dispatched dispatcher request state
      (.error (.unhandled (dispatcher.typeName (dispatcher.type request)))) state []
  /-- The validators find something, so nothing runs. -/
  | invalid {handle : Handler ρ σ α} {errors : List (String × List String)} :
    dispatcher.handlers (dispatcher.type request) = some handle →
    dispatcher.breaches request ≠ [] →
    Grouped (dispatcher.breaches request) errors →
    Dispatched dispatcher request state (.error (.invalid errors)) state []
  /-- The handler fails, and its failure is passed on. -/
  | failed {handle : Handler ρ σ α} {failure : Failure} {after : σ} :
    dispatcher.handlers (dispatcher.type request) = some handle →
    dispatcher.breaches request = [] →
    handle request state = (.error failure, after) →
    Dispatched dispatcher request state (.error failure) after
      [.handled (dispatcher.type request) request]
  /-- The handler succeeds, and then its outcome is announced. -/
  | handled {handle : Handler ρ σ α} {outcome : Outcome α} {between after : σ}
      {result : Except Failure (Outcome α)} {ran : List (Activity ρ κ)} :
    dispatcher.handlers (dispatcher.type request) = some handle →
    dispatcher.breaches request = [] →
    handle request state = (.ok outcome, between) →
    Announced dispatcher outcome between result after ran →
    Dispatched dispatcher request state result after
      (.handled (dispatcher.type request) request :: ran)

/-- How a sequence of requests can end: each starts where the one before it has left the state. -/
inductive DispatchedAll (dispatcher : Dispatcher ρ κ σ α) :
    List ρ → σ → List (Except Failure (Outcome α)) → σ → List (Activity ρ κ) → Prop where
  | nil {state : σ} : DispatchedAll dispatcher [] state [] state []
  | cons {request : ρ} {rest : List ρ} {state between after : σ}
      {result : Except Failure (Outcome α)} {results : List (Except Failure (Outcome α))}
      {first more : List (Activity ρ κ)} :
    Dispatched dispatcher request state result between first →
    DispatchedAll dispatcher rest between results after more →
    DispatchedAll dispatcher (request :: rest) state (result :: results) after (first ++ more)

variable (dispatcher : Dispatcher ρ κ σ α)

/-- What is dispatched, stage by stage. -/
theorem dispatch_eq (request : ρ) (state : σ) :
    dispatcher.dispatch request state =
      match dispatcher.handlers (dispatcher.type request) with
      | none => (.error (.unhandled (dispatcher.typeName (dispatcher.type request))), state)
      | some handle =>
        if dispatcher.breaches request = [] then
          match handle request state with
          | (.error failure, after) => (.error failure, after)
          | (.ok outcome, after) => dispatcher.announce outcome after
        else (.error (.invalid (Validation.group (dispatcher.breaches request))), state) := by
  rw [dispatch, Validation.check_eq, ← breaches]
  cases dispatcher.handlers (dispatcher.type request) with
  | none => rfl
  | some handle =>
    by_cases hbreaches : dispatcher.breaches request = []
    · rcases hrun : handle request state with ⟨failure | outcome, after⟩
      · simp only [if_pos hbreaches, hrun]
      · simp only [if_pos hbreaches, hrun]
    · simp only [if_neg hbreaches]

theorem watched_announce (outcome : Outcome α) (state : σ) (log : List (Activity ρ κ)) :
    ∃ result after ran, dispatcher.announce outcome state = (result, after) ∧
      dispatcher.watched.announce outcome (state, log) = (result, after, log ++ ran) ∧
      Announced dispatcher outcome state result after ran := by
  cases hp : dispatcher.publish with
  | none =>
    refine ⟨.ok outcome, state, [], ?_, ?_, .kept (.inl hp)⟩
    · simp [announce, hp]
    · simp [announce, watched, hp]
  | some publish =>
    rcases he : outcome.events with _ | _ | ⟨event, events⟩
    · refine ⟨.ok outcome, state, [], ?_, ?_, .kept (.inr (.inl he))⟩
      · simp [announce, he]
      · simp [announce, he]
    · refine ⟨.ok outcome, state, [], ?_, ?_, .kept (.inr (.inr he))⟩
      · simp [announce, he]
      · simp [announce, he]
    · rcases hr : publish (event :: events) state with ⟨failure | _, after⟩
      · refine ⟨_, _, _, ?_, ?_, .published hp he (List.cons_ne_nil _ _) hr⟩
        · simp [announce, hp, he, hr, Except.map]
        · simp [announce, watched, hp, he, hr, Except.map]
      · refine ⟨_, _, _, ?_, ?_, .published hp he (List.cons_ne_nil _ _) hr⟩
        · simp [announce, hp, he, hr, Except.map]
        · simp [announce, watched, hp, he, hr, Except.map]

/-- Watching changes nothing of a request either. -/
theorem watched_dispatch (request : ρ) (state : σ) (log : List (Activity ρ κ)) :
    ∃ result after ran, dispatcher.dispatch request state = (result, after) ∧
      dispatcher.watched.dispatch request (state, log) = (result, after, log ++ ran) ∧
      Dispatched dispatcher request state result after ran := by
  have htype : dispatcher.watched.type = dispatcher.type := rfl
  have hname : dispatcher.watched.typeName = dispatcher.typeName := rfl
  have hbreaches : dispatcher.watched.breaches = dispatcher.breaches := rfl
  rw [dispatch_eq, dispatch_eq, htype, hname, hbreaches]
  cases hh : dispatcher.handlers (dispatcher.type request) with
  | none =>
    refine ⟨_, _, [], rfl, ?_, .unregistered hh⟩
    simp [watched, hh]
  | some handle =>
    by_cases hb : dispatcher.breaches request = []
    · rcases hr : handle request state with ⟨failure | outcome, between⟩
      · refine ⟨_, _, _, ?_, ?_, .failed hh hb hr⟩
        · simp [hb, hr]
        · simp [watched, hh, hb, hr]
      · obtain ⟨result, after, ran, hplain, hwatched, hannounced⟩ :=
          dispatcher.watched_announce outcome between
            (log ++ [.handled (dispatcher.type request) request])
        refine ⟨result, after, _, ?_, ?_, .handled hh hb hr hannounced⟩
        · simp [hb, hr, hplain]
        · rw [List.append_assoc] at hwatched
          simpa [watched, hh, hb, hr] using hwatched
    · refine ⟨_, _, [], ?_, ?_, .invalid hh hb (Validation.group_grouped _)⟩
      · simp [hb]
      · simp [watched, hh, hb]

theorem watched_dispatchAll (requests : List ρ) (state : σ) (log : List (Activity ρ κ)) :
    ∃ results after ran, dispatcher.dispatchAll requests state = (results, after) ∧
      dispatcher.watched.dispatchAll requests (state, log) = (results, after, log ++ ran) ∧
      DispatchedAll dispatcher requests state results after ran := by
  induction requests generalizing state log with
  | nil => exact ⟨[], state, [], rfl, by simp [dispatchAll], .nil⟩
  | cons request rest ih =>
    obtain ⟨result, between, first, hplain, hwatched, hdispatched⟩ :=
      dispatcher.watched_dispatch request state log
    obtain ⟨results, after, more, hrest, hwatchedRest, hall⟩ := ih between (log ++ first)
    refine ⟨_, _, _, ?_, ?_, .cons hdispatched hall⟩
    · simp [dispatchAll, hplain, hrest]
    · simp [dispatchAll, hwatched, hwatchedRest]

/-- A sequence of requests is dispatched one by one. A request without a handler for its own type is
refused first of all; else all validators of its type speak, and if they find anything no handler
runs and their findings are grouped by field; else the handler of its type runs once, its failure or
its outcome is passed on, and after it the events of the outcome are published at once, if there are
any and there is a publisher. Nothing else is ever run. -/
theorem dispatcher_contract (requests : List ρ) (state : σ) :
    ∃ results after ran, dispatcher.dispatchAll requests state = (results, after) ∧
      dispatcher.watched.dispatchAll requests (state, []) = (results, after, ran) ∧
      DispatchedAll dispatcher requests state results after ran := by
  simpa using dispatcher.watched_dispatchAll requests state []

end Dispatcher
end Rbac
