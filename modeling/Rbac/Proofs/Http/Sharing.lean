import Rbac.Proofs.Http.Headers
import Rbac.Proofs.Http.Pipeline

namespace Rbac.Http

namespace Response

def sharedWith? (response : Response) : Option String :=
  response.header? "access-control-allow-origin"

/-- A cache is told not to answer requests from other origins with this response. -/
def VariesByOrigin (response : Response) : Prop :=
  response.header? "vary" = some "Origin"

instance (response : Response) : Decidable response.VariesByOrigin :=
  inferInstanceAs (Decidable (response.header? "vary" = some "Origin"))

end Response

namespace Cors

/-- The request names one of the configured origins as its own. -/
def Listed (origins : List String) (request : Incoming) : Prop :=
  ∃ origin ∈ origins, origin ≠ "" ∧ request.header? "origin" = some origin

variable {origins : List String} {request : Incoming} {origin : String}

theorem allowed_listed (hmem : origin ∈ origins) (hnamed : origin ≠ "")
    (horigin : request.header? "origin" = some origin) :
    allowed origins (request.header? "origin") =
      [("access-control-allow-origin", origin), ("vary", "Origin")] := by
  simp [allowed, horigin, Option.filter, hmem, hnamed]

theorem allowed_unlisted (h : ¬ Listed origins request) :
    allowed origins (request.header? "origin") =
      (origins.take 1).map fun first => ("access-control-allow-origin", first) := by
  have hnone : (request.header? "origin").filter
      (fun origin => !origin.isEmpty && origins.contains origin) = none := by
    apply Option.filter_eq_none_iff.mpr
    intro origin horigin htaken
    apply h
    simp only [Bool.and_eq_true, Bool.not_eq_true', List.contains_eq_mem, decide_eq_true_eq]
      at htaken
    refine ⟨origin, htaken.2, ?_, horigin⟩
    rintro rfl
    simp at htaken
  rw [allowed, hnone]

end Cors

namespace App

variable {ω : Type} {app : App ω} {origins : List String} {request : Incoming}

theorem serve_allowed (horigins : app.origins = some origins) (request : Incoming) (clock : Clock)
    (server : Server ω) {name : String}
    (hname : name = "access-control-allow-origin" ∨ name = "vary") :
    (app.serve clock request server).1.header? name =
      (Cors.allowed origins (request.header? "origin")).reverse.lookup name := by
  have hadded : name ∈ addedHeaders := by
    rcases hname with rfl | rfl
    · decide
    · decide
  rw [serve_header app clock request server hadded]
  have hown : ∀ id : Option String,
      (id.map (correlationHeader, ·)).toList.reverse.lookup name = none := by
    have hapart : (name == correlationHeader) = false := by
      rcases hname with rfl | rfl
      · decide +kernel
      · decide +kernel
    intro id
    cases id with
    | none => rfl
    | some id => simp [hapart]
  simp only [added, horigins, Cors.headers, Option.map_some, Option.getD_some, List.reverse_append,
    List.lookup_append, hown, Option.none_or]
  rcases hname with rfl | rfl
  · simp [List.lookup_cons]
  · simp [List.lookup_cons]

theorem serve_listed (horigins : app.origins = some origins) (h : Cors.Listed origins request)
    (clock : Clock) (server : Server ω) :
    let response := (app.serve clock request server).1
    response.sharedWith? = request.header? "origin" ∧ response.VariesByOrigin := by
  obtain ⟨origin, hmem, hnamed, horigin⟩ := h
  have hallowed := Cors.allowed_listed hmem hnamed horigin
  refine ⟨?_, ?_⟩
  · refine (serve_allowed horigins request clock server (Or.inl rfl)).trans ?_
    rw [hallowed, horigin]
    rfl
  · refine (serve_allowed horigins request clock server (Or.inr rfl)).trans ?_
    rw [hallowed]
    rfl

theorem serve_unlisted (horigins : app.origins = some origins) (h : ¬ Cors.Listed origins request)
    (clock : Clock) (server : Server ω) :
    let response := (app.serve clock request server).1
    response.sharedWith? = origins.head? ∧ ¬ response.VariesByOrigin := by
  have hallowed := Cors.allowed_unlisted h
  refine ⟨?_, ?_⟩
  · refine (serve_allowed horigins request clock server (Or.inl rfl)).trans ?_
    rw [hallowed]
    cases origins with
    | nil => rfl
    | cons first rest => rfl
  · have hnone := serve_allowed horigins request clock server (Or.inr rfl)
    rw [hallowed] at hnone
    rw [Response.VariesByOrigin, hnone]
    cases origins with
    | nil => simp
    | cons first rest => simp

theorem serve_varies (horigins : app.origins = some origins) (request : Incoming) (clock : Clock)
    (server : Server ω) :
    (app.serve clock request server).1.VariesByOrigin ↔ Cors.Listed origins request := by
  by_cases h : Cors.Listed origins request
  · exact iff_of_true (serve_listed horigins h clock server).2 h
  · exact iff_of_false (serve_unlisted horigins h clock server).2 h

end App

variable {ω : Type}

/-- A response is shared with a configured origin: with that of its request if it is one, else with
the first. Of two responses that are shared with different origins at least one varies by origin,
and both do exactly when both requests come from configured origins. -/
theorem shared_by_origin (app : App ω) (origins : List String)
    (horigins : app.origins = some origins) (clock later : Clock) (request other : Incoming)
    (server elsewhere : Server ω) :
    let response := (app.serve clock request server).1
    let answer := (app.serve later other elsewhere).1
    (∀ origin, response.sharedWith? = some origin → origin ∈ origins) ∧
    (Cors.Listed origins request → response.sharedWith? = request.header? "origin") ∧
    (¬ Cors.Listed origins request → response.sharedWith? = origins.head?) ∧
    (response.sharedWith? ≠ answer.sharedWith? →
      (response.VariesByOrigin ∨ answer.VariesByOrigin) ∧
      (response.VariesByOrigin ∧ answer.VariesByOrigin ↔
        Cors.Listed origins request ∧ Cors.Listed origins other)) := by
  intro response answer
  have hvaries := App.serve_varies horigins request clock server
  have hvaries' := App.serve_varies horigins other later elsewhere
  refine ⟨?_, fun h => (App.serve_listed horigins h clock server).1,
    fun h => (App.serve_unlisted horigins h clock server).1, fun hdiffer => ⟨?_, ?_⟩⟩
  · intro origin hshared
    by_cases h : Cors.Listed origins request
    · have hown := (App.serve_listed horigins h clock server).1.symm.trans hshared
      obtain ⟨named, hmem, _, horigin⟩ := h
      rwa [Option.some.inj (hown.symm.trans horigin)]
    · have hfirst := (App.serve_unlisted horigins h clock server).1.symm.trans hshared
      exact List.mem_of_mem_head? hfirst
  · by_contra hneither
    rw [hvaries, hvaries', not_or] at hneither
    apply hdiffer
    -- Neither origin is configured, so both responses name the first one.
    calc response.sharedWith?
        = origins.head? := (App.serve_unlisted horigins hneither.1 clock server).1
      _ = answer.sharedWith? := (App.serve_unlisted horigins hneither.2 later elsewhere).1.symm
  · rw [hvaries, hvaries']

def healthFrom (origin : String) : Incoming where
  method := "GET"
  path := "/health"
  headers := [("origin", origin)]

def shared : App World :=
  inMemory (.star false (.one .dot)) none none none ["http://a.test", "http://b.test"]

/-- Two configured origins are each named back, and both responses vary. -/
theorem shared_by_origin_configured :
    let response := (shared.serve .epoch (healthFrom "http://b.test") logging).1
    let answer := (shared.serve .epoch (healthFrom "http://a.test") logging).1
    shared.origins = some ["http://a.test", "http://b.test"] ∧
      Cors.Listed ["http://a.test", "http://b.test"] (healthFrom "http://b.test") ∧
      response.sharedWith? = some "http://b.test" ∧
      response.sharedWith? ≠ answer.sharedWith? ∧
      response.VariesByOrigin ∧ answer.VariesByOrigin := by
  intro response answer
  have hlisted : Cors.Listed ["http://a.test", "http://b.test"] (healthFrom "http://b.test") :=
    ⟨"http://b.test", by simp, by simp, rfl⟩
  have hlisted' : Cors.Listed ["http://a.test", "http://b.test"] (healthFrom "http://a.test") :=
    ⟨"http://a.test", by simp, by simp, rfl⟩
  have hdiffer : response.sharedWith? ≠ answer.sharedWith? := by decide +kernel
  obtain ⟨_, hown, _, hboth⟩ := shared_by_origin shared _ rfl .epoch .epoch
    (healthFrom "http://b.test") (healthFrom "http://a.test") logging logging
  exact ⟨rfl, hlisted, hown hlisted, hdiffer, (hboth hdiffer).2.mpr ⟨hlisted, hlisted'⟩⟩

/-- A response to an origin that is not configured names the first one and does not vary, so a cache
may keep it for the other one that is. -/
theorem fallback_does_not_vary :
    let response := (shared.serve .epoch (healthFrom "http://b.test") logging).1
    let answer := (shared.serve .epoch (healthFrom "http://c.test") logging).1
    response.sharedWith? = some "http://b.test" ∧ answer.sharedWith? = some "http://a.test" ∧
      response.VariesByOrigin ∧ ¬ answer.VariesByOrigin := by
  decide +kernel

end Rbac.Http
