import Rbac.Proofs.Http.Serving

namespace Rbac.Http

namespace Response

variable {name other value : String}

theorem setHeader_header (h : other ≠ name) (response : Response) :
    (response.setHeader name value).header? other = response.header? other := by
  have hapart : (name == other) = false := by simpa using fun he => h he.symm
  have hkept : (response.headers.filter (·.1 != name)).find? (·.1 == other) =
      response.headers.find? (·.1 == other) := by
    rw [List.find?_filter]
    congr
    funext header
    by_cases hheader : header.1 = other
    · simp [hheader, h]
    · simp [hheader]
  simp [header?, setHeader, hkept, hapart]

theorem setHeaders_keep (headers : List (String × String)) (response : Response)
    (h : ∀ header ∈ headers, header.1 ≠ other) :
    let set := headers.foldl (fun response (name, value) => response.setHeader name value) response
    set.status = response.status ∧ set.body = response.body ∧
      set.header? other = response.header? other := by
  induction headers generalizing response with
  | nil => exact ⟨rfl, rfl, rfl⟩
  | cons header rest ih =>
    obtain ⟨hfirst, hrest⟩ := List.forall_mem_cons.mp h
    obtain ⟨hstatus, hbody, hheader⟩ := ih (response.setHeader header.1 header.2) hrest
    exact ⟨hstatus, hbody, hheader.trans (setHeader_header hfirst.symm response)⟩

end Response

def addedHeaders : List String :=
  ["access-control-allow-origin", "vary", "access-control-allow-methods",
   "access-control-allow-headers", "access-control-expose-headers", "access-control-max-age",
   App.correlationHeader]

theorem Cors.headers_added (origins : List String) (request : Incoming) :
    ∀ header ∈ Cors.headers origins request, header.1 ∈ addedHeaders := by
  have hallowed : ∀ header ∈ Cors.allowed origins (request.header? "origin"),
      header.1 ∈ addedHeaders := by
    unfold Cors.allowed
    split
    · simp [addedHeaders]
    · intro header hheader
      obtain ⟨first, _, rfl⟩ := List.mem_map.mp hheader
      simp [addedHeaders]
  intro header hheader
  rcases List.mem_append.mp hheader with hallow | hfixed
  · exact hallowed header hallow
  · simp only [List.mem_cons, List.not_mem_nil, or_false] at hfixed
    rcases hfixed with rfl | rfl | rfl | rfl <;> simp [addedHeaders]

namespace App

variable {ω : Type}

theorem finish_keeps (app : App ω) (request : Incoming) (correlation : Option String)
    (response : Response) {name : String} (hname : name ∉ addedHeaders) :
    (app.finish request correlation response).status = response.status ∧
      (app.finish request correlation response).body =
        (if request.method = "HEAD" then none else response.body) ∧
      (app.finish request correlation response).header? name = response.header? name := by
  have hadded : ∀ header ∈
      ((app.origins.map fun origins => Cors.headers origins request).getD []) ++
      (correlation.map (correlationHeader, ·)).toList, header.1 ≠ name := by
    rintro header hheader rfl
    apply hname
    rcases List.mem_append.mp hheader with hshared | hown
    · cases horigins : app.origins with
      | none => simp [horigins] at hshared
      | some origins =>
        simp only [horigins, Option.map_some, Option.getD_some] at hshared
        exact Cors.headers_added origins request header hshared
    · cases correlation with
      | none => cases hown
      | some id =>
        simp only [Option.map_some, Option.toList_some, List.mem_singleton] at hown
        simp [hown, addedHeaders]
  obtain ⟨hstatus, hbody, hheader⟩ := Response.setHeaders_keep _ response hadded
  unfold finish
  split
  · exact ⟨hstatus, rfl, hheader⟩
  · exact ⟨hstatus, hbody, hheader⟩

end App

namespace Problem

variable (problem : Problem) (path : String) (correlation : Option String)

theorem body_status :
    (problem.body path correlation).member? "status" = some (.ofNat problem.status.code) := by
  simp [body, Json.member?]

theorem body_instance : (problem.body path correlation).member? "instance" = some (.str path) := by
  simp [body, Json.member?]

theorem body_internal {problem : Problem} (h : problem.status.code = 500) :
    problem.body path correlation = unreadable.body path correlation := by
  cases problem with
  | failed failure =>
    cases failure with
    | notFound entity key => simp [status, Status.notFound] at h
    | conflict message => simp [status, Status.conflict] at h
    | domain message => simp [status, Status.unprocessable] at h
    | invalid errors => simp [status, Status.badRequest] at h
    | _ => rfl
  | unreadable => rfl
  | _ => simp [status, Status.badRequest, Status.unauthorized, Status.notFound,
      Status.methodNotAllowed, Status.unsupportedMediaType] at h

end Problem

/-- A response tells of a problem: under the type of problems it repeats its own status and the path
of the request, and of trouble inside the service it tells no more than that there was some. A
response to `HEAD` goes without its body. -/
structure Response.TellsProblem (request : Incoming) (correlation : Option String)
    (response : Response) : Prop where
  type : response.header? "content-type" = some "application/problem+json"
  bodiless : request.method = "HEAD" → response.body = none
  told : request.method ≠ "HEAD" → ∃ body, response.body = some body ∧
    body.member? "status" = some (.ofNat response.status.code) ∧
    body.member? "instance" = some (.str request.path) ∧
    (response.status.code = 500 → body = Problem.unreadable.body request.path correlation)

def failureCode : Failure → Nat
  | .notFound .. => 404
  | .conflict _ => 409
  | .domain _ => 422
  | .invalid _ => 400
  | _ => 500

namespace App

variable {ω : Type}

theorem settle_untouched (request : Incoming) (correlation : Option String)
    (result : Except Problem Response) (server : Server ω) :
    server.Untouched (settle request correlation result server).2 := by
  cases result with
  | ok response => exact .refl server
  | error problem => exact .log _ server

theorem send_untouched (request : Incoming) (encodable : Bool) (response : Response)
    (server : Server ω) : server.Untouched (send request encodable response server).2 := by
  cases encodable with
  | true => exact .refl server
  | false => exact .log _ server

theorem reply_untouched (app : App ω) (clock : Clock) (request : Incoming)
    (correlation : Option String)
    (user : Option Json) (result : Except Problem Response) (server : Server ω) :
    server.Untouched (app.reply clock request correlation user result server).2 :=
  ((settle_untouched request _ result server).trans (.log _ _)).trans (send_untouched request _ _ _)

theorem reply_encodable (app : App ω) {clock : Clock} {request : Incoming}
    {result : Except Problem Response}
    (h : isEncodable result = true) (correlation : Option String) (user : Option Json)
    (server : Server ω) :
    (app.reply clock request correlation user result server).1 =
      app.finish request correlation
        (settle request (correlation.or server.context.correlation) result server).1 := by
  simp only [reply, send, h, if_true]

theorem reply_code (app : App ω) {clock : Clock} {request : Incoming}
    {result : Except Problem Response}
    (h : isEncodable result = true) (correlation : Option String) (user : Option Json)
    (server : Server ω) :
    (app.reply clock request correlation user result server).1.status.code =
      decidedCode result := by
  rw [reply_encodable app h]
  have hname : "content-type" ∉ addedHeaders := by decide
  rw [(app.finish_keeps request correlation _ hname).1]
  cases result with
  | ok response => rfl
  | error problem => rfl

theorem reply_body (app : App ω) {clock : Clock} {request : Incoming}
    {result : Except Problem Response}
    (h : isEncodable result = true) (correlation : Option String) (user : Option Json)
    (server : Server ω) :
    (app.reply clock request correlation user result server).1.body =
      if request.method = "HEAD" then none
      else decidedBody request (correlation.or server.context.correlation) result := by
  rw [reply_encodable app h]
  have hname : "content-type" ∉ addedHeaders := by decide
  rw [(app.finish_keeps request correlation _ hname).2.1]
  cases result with
  | ok response => rfl
  | error problem => rfl

theorem reply_problem (app : App ω) {clock : Clock} {request : Incoming} {problem : Problem}
    (h : isEncodable (.error problem) = true) (correlation : Option String) (user : Option Json)
    (server : Server ω) :
    (app.reply clock request correlation user (.error problem) server).1.TellsProblem request
      (correlation.or server.context.correlation) := by
  have hname : "content-type" ∉ addedHeaders := by decide
  obtain ⟨hstatus, hbody, hheader⟩ := app.finish_keeps request correlation
    (problem.response request.path (correlation.or server.context.correlation)) hname
  rw [reply_encodable app h]
  refine ⟨hheader, fun hhead => ?_, fun hhead => ?_⟩
  · exact hbody.trans (if_pos hhead)
  · refine ⟨_, hbody.trans (if_neg hhead), ?_, problem.body_instance _ _, fun hcode => ?_⟩
    · rw [problem.body_status]
      exact congrArg (fun status : Status => some (Json.ofNat status.code)) hstatus.symm
    · have hproblem : problem.status.code = 500 :=
        (congrArg Status.code hstatus).symm.trans hcode
      exact Problem.body_internal _ _ hproblem

/-- The dispatcher is called once, with the request that passes all stages, or it is not called:
what is served depends on the dispatcher only through that call. Any failure of it gets its status.
-/
def DispatchesOnce (app : App ω) (clock : Clock) (request : Incoming) (server : Server ω) : Prop :=
  match dispatched? app.identity request with
  | none => ∀ dispatcher,
      { app with dispatcher }.serve clock request server = app.serve clock request server
  | some asked => ∃ user, ∀ dispatcher,
      let ran := (dispatcher clock).dispatch asked (known app.identity request server)
      let served := { app with dispatcher }.serve clock request server
      served =
          app.reply clock request (some (correlate request server).1) user (told asked ran.1)
            ran.2 ∧
        ∀ failure, ran.1 = .error failure → isEncodable (told asked ran.1) = true →
          served.1.status.code = failureCode failure

theorem dispatched_passes {identity : Option IdentityProvider} {request : Incoming}
    {asked : Request} (h : dispatched? identity request = some asked) :
    Stage.first? identity request = none := by
  unfold dispatched? at h
  split at h
  · cases h
  · rename_i hnone
    simpa using hnone

theorem passes_unique {identity : Option IdentityProvider} {request : Incoming} {call : Call}
    {asked : Request} (h : Passes identity request call)
    (hasked : dispatched? identity request = some asked) : call = .use asked := by
  have hendpoint : ∀ endpoint, Endpoint.find? request = some endpoint →
      endpoint.asked? request = some asked := by
    intro endpoint hfound
    simpa [dispatched?, dispatched_passes hasked, hfound] using hasked
  cases call with
  | health => cases hendpoint _ h
  | readiness => cases hendpoint _ h
  | options allowed => cases h
  | use other => rw [Option.some.inj (h.symm.trans hasked)]

/-- A request that is not dispatched is served alike with every dispatcher. -/
theorem serve_undispatched (app : App ω) {request : Incoming}
    (hasked : dispatched? app.identity request = none) (clock : Clock) (server : Server ω)
    (dispatcher : Clock → Dispatcher Request RequestType (Server ω) Answer) :
    { app with dispatcher }.serve clock request server = app.serve clock request server := by
  by_cases hmethod : request.method = socketMethod
  · unfold serve
    rw [if_pos hmethod, if_pos hmethod]
    rfl
  by_cases hoptions : request.method = Call.optionsMethod
  · unfold serve
    rw [if_neg hmethod, if_neg hmethod]
    simp only [app.identify_options hoptions]
    rfl
  cases hfirst : Stage.first? app.identity request with
  | some stopped =>
    obtain ⟨user, held, _, hserve⟩ :=
      serve_stopped app (fun h => absurd h hoptions) hmethod hfirst clock server
    rw [hserve dispatcher]
    exact (hserve app.dispatcher).symm
  | none =>
    obtain ⟨user, call, _, hcall, hserve⟩ := serve_passed app hfirst clock server
    have hrun : { app with dispatcher }.run clock call (known app.identity request server) =
        app.run clock call (known app.identity request server) := by
      cases call with
      | use asked => cases hasked.symm.trans hcall
      | health => rfl
      | readiness => rfl
      | options allowed => rfl
    rw [hserve dispatcher, hrun]
    exact (hserve app.dispatcher).symm

theorem dispatches_once (app : App ω) (clock : Clock) (request : Incoming) (server : Server ω) :
    app.DispatchesOnce clock request server := by
  unfold DispatchesOnce
  cases hasked : dispatched? app.identity request with
  | none => exact app.serve_undispatched hasked clock server
  | some asked =>
    obtain ⟨user, call, _, hcall, hserve⟩ :=
      serve_passed app (dispatched_passes hasked) clock server
    obtain rfl := passes_unique hcall hasked
    refine ⟨some user, fun dispatcher => ?_⟩
    have hserved := hserve dispatcher
    rw [run_use] at hserved
    refine ⟨hserved, fun failure hfailure hencodable => ?_⟩
    rw [hserved]
    refine (app.reply_code hencodable _ _ _).trans ?_
    rw [hfailure]
    cases failure <;> rfl

end App
end Rbac.Http
