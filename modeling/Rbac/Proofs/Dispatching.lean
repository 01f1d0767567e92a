import Rbac.Service

namespace Rbac.Service

variable {σ : Type} {pattern : Pattern} {request : Request}

theorem validators_breaches (pattern : Pattern) (request : Request) :
    (Validation.validators pattern request.type).flatMap (· request) =
      Validation.breaches pattern request := by
  cases request <;> simp [Validation.validators, Request.type, Validation.breaches]

theorem dispatch_invalid (h : Validation.breaches pattern request ≠ []) (execute : Execution σ)
    (publish : Option (Publish σ)) (clock : Clock) (state : σ) :
    (dispatcher pattern execute publish clock).dispatch request state =
      (.error (.invalid (Validation.group (Validation.breaches pattern request))), state) := by
  have hlist := validators_breaches pattern request
  cases hb : Validation.breaches pattern request with
  | nil => exact absurd hb h
  | cons breach rest =>
    rw [hb] at hlist
    simp [Dispatcher.dispatch, dispatcher, handlers, Validation.check, hlist]

/-- A request that keeps the rules runs as a unit of work, and then its events are announced. -/
theorem dispatch_valid (h : Validation.breaches pattern request = []) (execute : Execution σ)
    (publish : Option (Publish σ)) (clock : Clock) (state : σ) :
    (dispatcher pattern execute publish clock).dispatch request state =
      match execute (request.useCase clock) state with
      | (.error failure, after) => (.error failure, after)
      | (.ok outcome, after) =>
        (dispatcher pattern execute publish clock).announce outcome after := by
  have hlist := validators_breaches pattern request
  rw [h] at hlist
  have hcheck : Validation.check (Validation.validators pattern request.type) request = .ok () := by
    simp only [Validation.check, hlist]
  simp only [Dispatcher.dispatch, dispatcher, handlers, hcheck]
  rcases execute (request.useCase clock) state with ⟨_ | _, _⟩
  · rfl
  · rfl

theorem announce_told (pattern : Pattern) {publish : Publish σ} (tell : List Event → σ → σ)
    (hpublish : ∀ events state, publish events state = (.ok (), tell events state))
    (hnothing : ∀ state, tell [] state = state) (execute : Execution σ) (clock : Clock)
    (outcome : Outcome Answer) (state : σ) :
    (dispatcher pattern execute (some publish) clock).announce outcome state =
      (.ok outcome, tell (outcome.events.getD []) state) := by
  obtain ⟨answer, events⟩ := outcome
  cases events with
  | none => simp [Dispatcher.announce, dispatcher, hnothing]
  | some events =>
    cases events with
    | nil => simp [Dispatcher.announce, dispatcher, hnothing]
    | cons event rest => simp [Dispatcher.announce, dispatcher, hpublish]

/-- With such a publisher a request that keeps the rules runs as a unit of work and its events are
told. -/
theorem dispatch_told (h : Validation.breaches pattern request = []) {publish : Publish σ}
    (tell : List Event → σ → σ)
    (hpublish : ∀ events state, publish events state = (.ok (), tell events state))
    (hnothing : ∀ state, tell [] state = state) (execute : Execution σ) (clock : Clock)
    (state : σ) :
    (dispatcher pattern execute (some publish) clock).dispatch request state =
      match execute (request.useCase clock) state with
      | (.error failure, after) => (.error failure, after)
      | (.ok outcome, after) => (.ok outcome, tell (outcome.events.getD []) after) := by
  rw [dispatch_valid h]
  rcases execute (request.useCase clock) state with ⟨failure | outcome, after⟩
  · rfl
  · exact announce_told pattern tell hpublish hnothing execute clock outcome after

end Rbac.Service
