import Rbac.Proofs.Http.Stages

namespace Rbac.Http

namespace Server

variable {ω : Type}

/-- Only what surrounds a request has changed: its context, the correlation ids that are left, and
the log. -/
structure Untouched (before after : Server ω) : Prop where
  records : after.records = before.records
  publishers : after.publishers = before.publishers
  published : after.published = before.published
  posts : after.journal.posts = before.journal.posts

namespace Untouched

variable {a b c : Server ω}

theorem refl (server : Server ω) : Untouched server server := ⟨rfl, rfl, rfl, rfl⟩

theorem trans (hab : Untouched a b) (hbc : Untouched b c) : Untouched a c :=
  ⟨hbc.records.trans hab.records, hbc.publishers.trans hab.publishers,
    hbc.published.trans hab.published, hbc.posts.trans hab.posts⟩

theorem log (lines : List LogLine) (server : Server ω) : Untouched server (server.log lines) :=
  ⟨rfl, rfl, rfl, by simp [Server.log]⟩

theorem context (context : Context) (server : Server ω) :
    Untouched server { server with context } := ⟨rfl, rfl, rfl, rfl⟩

end Untouched
end Server

namespace App

variable {ω : Type}

theorem correlate_untouched (request : Incoming) (server : Server ω) :
    server.Untouched (correlate request server).2 := by
  unfold correlate
  cases correlation? request with
  | none => exact ⟨rfl, rfl, rfl, rfl⟩
  | some id => exact ⟨rfl, rfl, rfl, rfl⟩

def known (identity : Option IdentityProvider) (request : Incoming) (server : Server ω) :
    Server ω :=
  let (user, lines) := Identity.authenticate identity request
  let heard := (correlate request server).2.log lines
  match user with
  | .error _ => heard
  | .ok user => { heard with context := { heard.context with actor := Identity.actor user } }

theorem known_untouched (identity : Option IdentityProvider) (request : Incoming)
    (server : Server ω) : server.Untouched (known identity request server) := by
  have hheard : ∀ lines, server.Untouched ((correlate request server).2.log lines) :=
    fun lines => (correlate_untouched request server).trans (.log lines _)
  unfold known
  rcases Identity.authenticate identity request with ⟨problem | user, lines⟩
  · exact hheard lines
  · exact (hheard lines).trans (.context _ _)

theorem serve_request (app : App ω) {request : Incoming} (hmethod : request.method ≠ socketMethod)
    (clock : Clock) (server : Server ω) {user : Option Json} {result : Except Problem Response}
    {held : Server ω}
    (h : app.identify clock request (correlate request server).2 = (user, result, held)) :
    app.serve clock request server =
      app.reply clock request (some (correlate request server).1) user result held := by
  unfold serve
  rw [if_neg hmethod]
  simp only [h]

/-- A request that a stage stops is answered with what the stage makes of it, whatever the
dispatcher does. -/
theorem serve_stopped (app : App ω) {request : Incoming} {stage : Stage}
    {result : Except Problem Response}
    (hshared : request.method = Call.optionsMethod → ∃ origins, app.origins = some origins)
    (hmethod : request.method ≠ socketMethod)
    (hstops : Stage.first? app.identity request = some (stage, result)) (clock : Clock)
    (server : Server ω) :
    ∃ user held, server.Untouched held ∧ ∀ dispatcher,
      { app with dispatcher }.serve clock request server =
        app.reply clock request (some (correlate request server).1) user result held := by
  by_cases hoptions : request.method = Call.optionsMethod
  · refine ⟨none, _, correlate_untouched request server, fun dispatcher => ?_⟩
    have hresult : result = .ok Cors.preflight := by
      simp [Stage.first?, Stage.all, Stage.stop?, hoptions] at hstops
      exact hstops.2.symm
    obtain ⟨origins, horigins⟩ := hshared hoptions
    apply serve_request _ hmethod
    simp only [identify, hoptions, horigins, if_true, hresult]
  · rcases hauth : Identity.authenticate app.identity request with ⟨problem | user, lines⟩
    · refine ⟨none, _, known_untouched app.identity request server, fun dispatcher => ?_⟩
      have hresult : result = .error problem := by
        simp [Stage.first?, Stage.all, Stage.stop?, hoptions, hauth] at hstops
        exact hstops.2.symm
      apply serve_request _ hmethod
      simp only [identify, if_neg hoptions, hauth, hresult, known]
    · refine ⟨some user, _, known_untouched app.identity request server, fun dispatcher => ?_⟩
      have hread := read_stages hoptions (congrArg Prod.fst hauth)
      cases hcall : Call.read request with
      | ok call =>
        rw [hcall, hstops] at hread
        cases hread.1
      | error problem =>
        rw [hcall] at hread
        obtain ⟨stage, hstage⟩ := hread
        obtain rfl : result = .error problem := by
          rw [hstops] at hstage
          exact (Prod.mk.inj (Option.some.inj hstage)).2
        apply serve_request _ hmethod
        simp only [identify, if_neg hoptions, hauth, answer, hcall, known]

/-- No resource takes the method of sockets. -/
theorem passed_method {identity : Option IdentityProvider} {request : Incoming}
    (hpasses : Stage.first? identity request = none) : request.method ≠ socketMethod := by
  intro hmethod
  have hunknown : Method.known.contains request.method = false := by
    rw [hmethod]
    decide
  have hstop := List.findSome?_eq_none_iff.mp hpasses .routing (by decide)
  simp only [Stage.stop?, Option.map_eq_none_iff, misrouted?, hunknown] at hstop
  cases hpath : Resource.ofPath? request.path with
  | none => simp [hpath] at hstop
  | some resource => simp [hpath] at hstop

theorem identify_options (app : App ω) {request : Incoming}
    (hoptions : request.method = Call.optionsMethod) (clock : Clock) (server : Server ω)
    (dispatcher : Clock → Dispatcher Request RequestType (Server ω) Answer) :
    { app with dispatcher }.identify clock request server = app.identify clock request server := by
  simp only [identify, if_pos hoptions]
  cases app.origins with
  | some origins => rfl
  | none =>
    simp only [answer, Call.read]
    cases Resource.ofPath? request.path with
    | none => rfl
    | some resource =>
      have hread : Call.ofResource resource request = .ok (.options resource.methodNames) := by
        simp [Call.ofResource, hoptions, Method.known, Call.optionsMethod]
      simp only [hread]
      rfl

theorem serve_passed (app : App ω) {request : Incoming}
    (hpasses : Stage.first? app.identity request = none) (clock : Clock) (server : Server ω) :
    ∃ user call, (Identity.authenticate app.identity request).1 = .ok user ∧
      Passes app.identity request call ∧ ∀ dispatcher,
        let ran := { app with dispatcher }.run clock call (known app.identity request server)
        { app with dispatcher }.serve clock request server =
          app.reply clock request (some (correlate request server).1) (some user) ran.1 ran.2 := by
  have hmethod : request.method ≠ socketMethod := passed_method hpasses
  have hoptions : request.method ≠ Call.optionsMethod := by
    intro hoptions
    simp [Stage.first?, Stage.all, Stage.stop?, hoptions] at hpasses
  rcases hauth : Identity.authenticate app.identity request with ⟨problem | user, lines⟩
  · simp [Stage.first?, Stage.all, Stage.stop?, hoptions, hauth] at hpasses
  · have hread := read_stages hoptions (congrArg Prod.fst hauth)
    cases hcall : Call.read request with
    | error problem =>
      rw [hcall] at hread
      obtain ⟨stage, hstage⟩ := hread
      rw [hpasses] at hstage
      cases hstage
    | ok call =>
      rw [hcall] at hread
      refine ⟨user, call, rfl, hread.2, fun dispatcher => ?_⟩
      apply serve_request _ hmethod
      simp only [identify, if_neg hoptions, hauth, answer, hcall, known]

end App

def told (asked : Request) : Except Failure (Outcome Answer) → Except Problem Response
  | .ok outcome => .ok (Call.response asked outcome.value)
  | .error failure => .error (.failed failure)

namespace App

variable {ω : Type}

theorem run_use (app : App ω) (clock : Clock) (asked : Request) (server : Server ω) :
    app.run clock (.use asked) server =
      let ran := (app.dispatcher clock).dispatch asked server
      (told asked ran.1, ran.2) := by
  simp only [run]
  rcases (app.dispatcher clock).dispatch asked server with ⟨failure | outcome, after⟩
  · rfl
  · rfl

end App
end Rbac.Http
