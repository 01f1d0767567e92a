import Rbac.Proofs.Delivery

namespace Rbac

/-- An attempt that publishers can have before them: a post is made for the actor and the
correlation id of the context. -/
inductive Attempt.Planned (context : Context) (events : List Event) : Attempt → Prop where
  | logged {event : Event} (mem : event ∈ events) : Planned context events (.logged event)
  | withheld {event : Event} (mem : event ∈ events) : Planned context events (.withheld event)
  | posted {event : Event} {actor : Option Uuid} {user : Uuid} {url service : String}
      {reply : Delivery} (mem : event ∈ events) (reads : context.actorId? = .ok actor)
      (acts : event.actor? actor = some user) :
      Planned context events
        (.posted event ⟨url, .ofEvent event user service context.correlation⟩ reply)

variable {context : Context} {events : List Event}

theorem Attempt.Planned.cons {attempt : Attempt} (h : attempt.Planned context events)
    (event : Event) : attempt.Planned context (event :: events) := by
  cases h with
  | logged mem => exact .logged (List.mem_cons_of_mem _ mem)
  | withheld mem => exact .withheld (List.mem_cons_of_mem _ mem)
  | posted mem reads acts => exact .posted (List.mem_cons_of_mem _ mem) reads acts

theorem Attempt.of_mem_made {attempt : Attempt} {attempts : List Attempt}
    (h : attempt ∈ made attempts) : attempt ∈ attempts := by
  induction attempts with
  | nil => exact h
  | cons first rest ih =>
    simp only [made] at h
    split at h
    · exact List.mem_cons.mpr (Or.inl (List.mem_singleton.mp h))
    · rcases List.mem_cons.mp h with rfl | hrest
      · exact List.mem_cons_self
      · exact List.mem_cons_of_mem _ (ih hrest)

theorem AuditService.attempts_planned {actor : Option Uuid} (hactor : context.actorId? = .ok actor)
    (url : String) (service : AuditService) (events : List Event) :
    ∀ attempt ∈ service.attempts context url actor events, attempt.Planned context events := by
  induction events generalizing service with
  | nil =>
    intro _ hin
    cases hin
  | cons event rest ih =>
    intro attempt hin
    simp only [attempts] at hin
    cases hwho : event.actor? actor with
    | none =>
      rw [hwho] at hin
      rcases List.mem_cons.mp hin with rfl | hrest
      · exact .withheld List.mem_cons_self
      · exact (ih service attempt hrest).cons event
    | some user =>
      rw [hwho] at hin
      rcases List.mem_cons.mp hin with rfl | hrest
      · exact .posted List.mem_cons_self hactor hwho
      · exact (ih _ attempt hrest).cons event

namespace Publisher

theorem attempted_planned (context : Context) (events : List Event) (publisher : Publisher) :
    ∀ attempt ∈ publisher.attempted context events, attempt.Planned context events := by
  intro attempt hin
  unfold attempted at hin
  cases publisher with
  | log =>
    obtain ⟨event, hevent, rfl⟩ := List.mem_map.mp (Attempt.of_mem_made hin)
    exact .logged hevent
  | audit service =>
    simp only [plan] at hin
    by_cases hnone : events = []
    · rw [if_pos hnone] at hin
      cases hin
    · rw [if_neg hnone] at hin
      cases hurl : service.url with
      | error flaw => simp [hurl] at hin
      | ok url =>
        simp only [hurl] at hin
        cases hactor : context.actorId? with
        | error failure => simp [hactor, Except.map] at hin
        | ok actor =>
          simp only [hactor, Except.map] at hin
          exact AuditService.attempts_planned hactor url.text service events attempt
            (Attempt.of_mem_made hin)

theorem publishAll_planned (context : Context) (events : List Event) (publishers : List Publisher) :
    ∃ attempts, (publishAll context events publishers).2.1 = Attempt.journals attempts ∧
      ∀ attempt ∈ attempts, attempt.Planned context events := by
  induction publishers with
  | nil => exact ⟨[], rfl, by simp⟩
  | cons publisher rest ih =>
    obtain ⟨attempts, hrest, hplanned⟩ := ih
    have hmade := (publish_attempts context events publisher).2
    have hfirst := publisher.attempted_planned context events
    rcases hpublish : publisher.publish context events with ⟨failure | _, journal, publisher'⟩
    · rw [hpublish] at hmade
      exact ⟨publisher.attempted context events, by simpa only [publishAll, hpublish] using hmade,
        hfirst⟩
    · rw [hpublish] at hmade
      refine ⟨publisher.attempted context events ++ attempts, ?_, ?_⟩
      · simp only [publishAll, hpublish, hrest, Attempt.journals_append]
        exact congrArg (· ++ _) hmade
      · intro attempt hin
        rcases List.mem_append.mp hin with hin | hin
        · exact hfirst attempt hin
        · exact hplanned attempt hin

end Publisher

namespace Http

variable {ω : Type}

theorem announce_state {σ : Type} (pattern : Pattern) (execution : Execution σ)
    (publish : Publish σ) (clock : Clock) (value : Answer) (event : Event) (rest : List Event)
    (state : σ) :
    ((Service.dispatcher pattern execution (some publish) clock).announce
      (.written value (event :: rest)) state).2 = (publish (event :: rest) state).2 := by
  simp only [Dispatcher.announce, Service.dispatcher, Outcome.written]
  rcases publish (event :: rest) state with ⟨failure | _, after⟩
  · rfl
  · rfl

/-- What dispatching a request changes around it: events are published, each of which planned
attempts have been made for. -/
structure Server.Announced (server after : Server ω) (events : List Event)
    (attempts : List Attempt) : Prop where
  context : after.context = server.context
  correlations : after.correlations = server.correlations
  published : after.published = server.published ++ events
  journal : after.journal = server.journal ++ Attempt.journals attempts
  planned : ∀ attempt ∈ attempts, attempt.Planned server.context events

theorem Server.dispatch_announced (pattern : Pattern) (execution : Execution ω) (clock : Clock)
    (asked : Request) (server : Server ω) :
    ∃ events attempts, server.Announced
      ((dispatcher pattern execution clock).dispatch asked server).2 events attempts := by
  have hquiet : ∀ records, ∃ events attempts,
      server.Announced { server with records } events attempts := fun records =>
    ⟨[], [], rfl, rfl, (List.append_nil _).symm, (Journal.append_empty _).symm, by simp⟩
  by_cases hvalid : Validation.breaches pattern asked = []
  · have hexecute : execute execution (asked.useCase clock) server =
        ((execution (asked.useCase clock) server.records).1,
          { server with records := (execution (asked.useCase clock) server.records).2 }) := rfl
    rw [dispatcher, Service.dispatch_valid hvalid, hexecute]
    rcases execution (asked.useCase clock) server.records with ⟨failure | ⟨value, events⟩, records⟩
    · exact hquiet records
    · cases events with
      | none => exact hquiet records
      | some events =>
        cases events with
        | nil => exact hquiet records
        | cons event rest =>
          obtain ⟨attempts, hjournal, hplanned⟩ :=
            Publisher.publishAll_planned server.context (event :: rest) server.publishers
          refine ⟨event :: rest, attempts, ?_⟩
          have hstate := announce_state pattern (execute execution) publish clock value event rest
            { server with records }
          simp only [Outcome.written] at hstate
          rw [hstate]
          exact ⟨rfl, rfl, rfl, congrArg (server.journal ++ ·) hjournal, hplanned⟩
  · rw [dispatcher, Service.dispatch_invalid hvalid]
    exact hquiet server.records

end Http
end Rbac
