import Rbac.Validation
import Rbac.View

namespace Rbac

/-- What runs a request, given as its effect on a state. -/
abbrev Handler (ρ σ α : Type) := ρ → σ → Except Failure (Outcome α) × σ

abbrev Publish (σ : Type) := List Event → σ → Except Failure Unit × σ

structure Dispatcher (ρ κ σ α : Type) where
  /-- The type of a request. -/
  type : ρ → κ
  typeName : κ → String
  handlers : κ → Option (Handler ρ σ α)
  validators : κ → List (ρ → List Breach)
  publish : Option (Publish σ)

namespace Dispatcher

variable {ρ κ σ α : Type}

/-- Hands over the events of a write, if there are any and someone takes them. -/
def announce (dispatcher : Dispatcher ρ κ σ α) (outcome : Outcome α) (state : σ) :
    Except Failure (Outcome α) × σ :=
  match dispatcher.publish, outcome.events with
  | some publish, some (event :: events) =>
    match publish (event :: events) state with
    | (.ok (), state) => (.ok outcome, state)
    | (.error failure, state) => (.error failure, state)
  | _, _ => (.ok outcome, state)

def dispatch (dispatcher : Dispatcher ρ κ σ α) (request : ρ) (state : σ) :
    Except Failure (Outcome α) × σ :=
  let type := dispatcher.type request
  match dispatcher.handlers type with
  | none => (.error (.unhandled (dispatcher.typeName type)), state)
  | some handle =>
    match Validation.check (dispatcher.validators type) request with
    | .error failure => (.error failure, state)
    | .ok () =>
      match handle request state with
      | (.error failure, state) => (.error failure, state)
      | (.ok outcome, state) => dispatcher.announce outcome state

/-- Runs the handler alone: nothing is validated or published. -/
def direct (dispatcher : Dispatcher ρ κ σ α) (request : ρ) (state : σ) :
    Except Failure (Outcome α) × σ :=
  match dispatcher.handlers (dispatcher.type request) with
  | none => (.error (.unhandled (dispatcher.typeName (dispatcher.type request))), state)
  | some handle => handle request state

end Dispatcher
end Rbac
