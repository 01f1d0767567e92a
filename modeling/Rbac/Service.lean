import Rbac.Dispatch
import Rbac.UseCase

namespace Rbac

/-- Runs a use case as one unit of work. -/
abbrev Execution (σ : Type) := UseCase → σ → Except Failure (Outcome Answer) × σ

namespace Service

variable {σ : Type}

def handlers (execute : Execution σ) (clock : Clock) (_ : RequestType) :
    Option (Handler Request σ Answer) :=
  some fun request state => execute (request.useCase clock) state

def dispatcher (pattern : Pattern) (execute : Execution σ) (publish : Option (Publish σ))
    (clock : Clock) : Dispatcher Request RequestType σ Answer where
  type := Request.type
  typeName := RequestType.name
  handlers := handlers execute clock
  validators := Validation.validators pattern
  publish := publish

end Service

/-- The service in memory: its records, the identifiers it draws, how its units of work ended, and
the events it has published. -/
structure World where
  store : Store
  supply : Supply
  commits : Nat := 0
  rollbacks : Nat := 0
  published : List Event := []

namespace World

/-- A unit of work in memory. Rolling back undoes nothing. -/
def execute : Execution World := fun useCase world =>
  match useCase.run world.store world.supply with
  | (.ok answer, store, supply) =>
    (answer, { world with store, supply, commits := world.commits + 1 })
  | (.error failure, store, supply) =>
    (.error failure, { world with store, supply, rollbacks := world.rollbacks + 1 })

def publish : Publish World := fun events world =>
  (.ok (), { world with published := world.published ++ events })

def dispatcher (pattern : Pattern) (clock : Clock) : Dispatcher Request RequestType World Answer :=
  Service.dispatcher pattern execute (some publish) clock

/-- One step: a request with what the clock shows meanwhile, dispatched or run directly. -/
structure Step where
  request : Request
  clock : Clock
  direct : Bool := false

def step (pattern : Pattern) (step : Step) (world : World) :
    Except Failure (Outcome Answer) × World :=
  let dispatcher := dispatcher pattern step.clock
  if step.direct then dispatcher.direct step.request world
  else dispatcher.dispatch step.request world

end World
end Rbac
