import Rbac.Proofs.Atomicity
import Rbac.Proofs.Delivery
import Rbac.Proofs.Http.Responses
import Rbac.Proofs.Integrity

namespace Rbac.Http

def outcomeCode (asked : Request) : Except Failure (Outcome Answer) → Nat
  | .error failure => failureCode failure
  | .ok _ =>
    match asked with
    | .createRole _ | .assignRole _ => 201
    | .deleteRole _ | .revokeRole _ => 204
    | _ => 200

/-- What is decided about a request, and with which status: by the first stage that stops it, else
by the service itself, else by the rules of the request that is dispatched, else by its use case. -/
inductive Decided (pattern : Pattern) (app : App World) (clock : Clock) (request : Incoming)
    (records : World) : Except Problem Response → Nat → Prop where
  | stopped {stage : Stage} {result : Except Problem Response}
      (first : Stage.first? app.identity request = some (stage, result))
      (listed : decidedCode result ∈ stage.codes) :
      Decided pattern app clock request records result (decidedCode result)
  | healthy (passes : Stage.first? app.identity request = none)
      (found : Endpoint.find? request = some .health) :
      Decided pattern app clock request records (.ok Call.healthy) 200
  | ready (passes : Stage.first? app.identity request = none)
      (found : Endpoint.find? request = some .readiness)
      (reached : ∀ check ∈ app.readiness, (check records).1 = true) :
      Decided pattern app clock request records (.ok Call.ready) 200
  | unready {check : Readiness World} (passes : Stage.first? app.identity request = none)
      (found : Endpoint.find? request = some .readiness) (checks : app.readiness = some check)
      (failed : (check records).1 = false) :
      Decided pattern app clock request records (.ok Call.notReady) 503
  | invalid {asked : Request} (passes : dispatched? app.identity request = some asked)
      (breaks : Validation.breaches pattern asked ≠ []) :
      Decided pattern app clock request records
        (.error (.failed (.invalid (Validation.group (Validation.breaches pattern asked))))) 400
  | ran {asked : Request} (passes : dispatched? app.identity request = some asked)
      (keeps : Validation.breaches pattern asked = []) :
      Decided pattern app clock request records
        (told asked (World.execute (asked.useCase clock) records).1)
        (outcomeCode asked (World.execute (asked.useCase clock) records).1)

def inMemory (pattern : Pattern) (publish : Option (Publish (Server World)))
    (readiness : Option (Readiness World)) (identity : Option IdentityProvider)
    (origins : List String) : App World where
  dispatcher := Service.dispatcher pattern (Server.execute World.execute) publish
  readiness := readiness
  identity := identity
  origins := some origins

/-- Nothing has been written and nothing published. -/
structure Server.LeftAlone (before after : Server World) : Prop where
  store : after.records.store = before.records.store
  publishers : after.publishers = before.publishers
  published : after.published = before.published
  posts : after.journal.posts = before.journal.posts

namespace Server

/-- A publisher that does not fail on a server, whatever it is told and whatever the records are. -/
def QuietOn (server : Server World) (publish : Option (Publish (Server World))) : Prop :=
  ∀ tell ∈ publish, ∀ events records, (tell events { server with records }).1 = .ok ()

theorem quietOn_log {server : Server World} (h : server.publishers = [.log]) :
    server.QuietOn (some publish) := by
  rintro _ ⟨⟩ events records
  have hround : (Publisher.publishAll server.context events server.publishers).1 = .ok () := by
    rw [h]
    rfl
  exact hround

variable {a b c : Server World}

theorem LeftAlone.trans (hab : LeftAlone a b) (hbc : LeftAlone b c) : LeftAlone a c :=
  ⟨hbc.store.trans hab.store, hbc.publishers.trans hab.publishers,
    hbc.published.trans hab.published, hbc.posts.trans hab.posts⟩

theorem Untouched.leftAlone (h : Untouched a b) : LeftAlone a b :=
  ⟨congrArg World.store h.records, h.publishers, h.published, h.posts⟩

end Server

section InMemory

variable {pattern : Pattern} {publish : Option (Publish (Server World))} {asked : Request}
  {server : Server World}

theorem announce_quiet {σ : Type} {publish : Option (Publish σ)} {state : σ}
    (hquiet : ∀ tell ∈ publish, ∀ events, (tell events state).1 = .ok ()) (execution : Execution σ)
    (clock : Clock) (outcome : Outcome Answer) :
    ((Service.dispatcher pattern execution publish clock).announce outcome state).1 =
      .ok outcome := by
  obtain ⟨value, events⟩ := outcome
  simp only [Dispatcher.announce, Service.dispatcher]
  split
  · rename_i tell event rest
    have hok := hquiet tell rfl (event :: rest)
    rcases htold : tell (event :: rest) state with ⟨failure | _, after⟩
    · rw [htold] at hok
      cases hok
    · rfl
  · rfl

/-- A request that keeps its rules ends over HTTP as its use case ends in memory. One that fails has
written nothing, and no publisher has been asked. -/
theorem dispatch_inMemory (hvalid : Validation.breaches pattern asked = [])
    (hquiet : server.QuietOn publish) (clock : Clock) :
    let result := (World.execute (asked.useCase clock) server.records).1
    let dispatch := fun publish =>
      (Service.dispatcher pattern (Server.execute World.execute) publish clock).dispatch asked
        server
    (∃ failure held, result = .error failure ∧ server.LeftAlone held ∧
        ∀ publish, dispatch publish = (.error failure, held)) ∨
      ∃ outcome, result = .ok outcome ∧ (dispatch publish).1 = .ok outcome := by
  intro result dispatch
  have hdispatch : ∀ publish, dispatch publish = _ := fun publish =>
    Service.dispatch_valid hvalid (Server.execute World.execute) publish clock server
  obtain ⟨ended, after, later, hexecute, heffect⟩ := World.execute_effect asked clock server.records
  have hserved : Server.execute World.execute (asked.useCase clock) server =
      (ended, { server with records := server.records.settled ended after later }) := by
    simp only [Server.execute, hexecute]
  rw [hserved] at hdispatch
  have hresult : result = ended := congrArg Prod.fst hexecute
  rw [hresult]
  cases ended with
  | error failure =>
    let held := { server with records := server.records.settled (.error failure) after later }
    refine Or.inl ⟨failure, held, rfl, ⟨?_, rfl, rfl, rfl⟩, hdispatch⟩
    exact (World.settled_store _ _ _ _).trans (heffect.of_error hvalid).2
  | ok outcome =>
    refine Or.inr ⟨outcome, rfl, ?_⟩
    rw [hdispatch publish]
    exact announce_quiet (fun tell htell events => hquiet tell htell events _) _ clock outcome

theorem told_code (asked : Request) (clock : Clock) (world : World) :
    decidedCode (told asked (World.execute (asked.useCase clock) world).1) =
      outcomeCode asked (World.execute (asked.useCase clock) world).1 := by
  obtain ⟨result, after, later, hexecute, heffect⟩ := World.execute_effect asked clock world
  rw [hexecute]
  cases result with
  | error failure => cases failure <;> rfl
  | ok outcome =>
    cases heffect with
    | answered answer hasks =>
      cases asked with
      | createRole | updateRole | deleteRole | assignRole | revokeRole => cases hasks
      | _ => rfl
    | _ => rfl

end InMemory

/-- How a decision is sent: under its status and with its body, which tells a correlation id. A
refusal tells its problem, has left everything alone, and is served as if there were no publisher.
-/
structure Sent (request : Incoming) (told : Option String) (server : Server World)
    (result : Except Problem Response) (code : Nat)
    (served unpublished : Response × Server World) : Prop where
  status : served.1.status.code = code
  body : served.1.body =
    if request.method = "HEAD" then none else decidedBody request told result
  refusal : 400 ≤ code → code ≠ 503 →
    served.1.TellsProblem request told ∧ server.LeftAlone served.2 ∧ served = unpublished

namespace App

variable {app : App World} {request : Incoming} {correlation told : Option String}
  {server held : Server World}

theorem reply_refusal {problem : Problem} (h : isEncodable (.error problem) = true)
    (htold : correlation.or held.context.correlation = told) (hheld : server.LeftAlone held)
    (user : Option Json) {unpublished : Response × Server World}
    (hsame : app.reply clock request correlation user (.error problem) held = unpublished) :
    Sent request told server (.error problem) problem.status.code
      (app.reply clock request correlation user (.error problem) held) unpublished := by
  subst htold
  refine ⟨app.reply_code h correlation user held, app.reply_body h correlation user held,
    fun _ _ => ⟨?_, ?_, hsame⟩⟩
  · exact app.reply_problem h correlation user held
  · exact hheld.trans (app.reply_untouched clock request correlation user _ held).leftAlone

theorem reply_answer {response : Response} (h : isEncodable (.ok response) = true)
    (htold : correlation.or held.context.correlation = told)
    (hcode : response.status.code < 400 ∨ response.status.code = 503) (user : Option Json)
    (unpublished : Response × Server World) :
    Sent request told server (.ok response) response.status.code
      (app.reply clock request correlation user (.ok response) held) unpublished := by
  subst htold
  refine ⟨app.reply_code h correlation user held, app.reply_body h correlation user held, ?_⟩
  intro hleast hready
  omega

end App

/-- What is decided about a request is sent so, if it can be encoded. -/
def Decides (pattern : Pattern) (app unpublished : App World) (clock : Clock) (request : Incoming)
    (server : Server World) : Prop :=
  ∃ result code, Decided pattern app clock request server.records result code ∧
    (App.isEncodable result = true →
      Sent request (some (App.correlate request server).1) server result code
        (app.serve clock request server) (unpublished.serve clock request server))

section Decides

variable {pattern : Pattern} {publish : Option (Publish (Server World))}
  {readiness : Option (Readiness World)} {identity : Option IdentityProvider}
  {origins : List String} {request : Incoming} {server : Server World}

theorem decides_stopped (hmethod : request.method ≠ App.socketMethod) {stage : Stage}
    {result : Except Problem Response}
    (hfirst : Stage.first? identity request = some (stage, result))
    (clock : Clock) :
    Decides pattern (inMemory pattern publish readiness identity origins)
      (inMemory pattern none readiness identity origins) clock request server := by
  let app := inMemory pattern publish readiness identity origins
  let unpublished := inMemory pattern none readiness identity origins
  obtain ⟨user, held, hheld, hserve⟩ :=
    App.serve_stopped app (fun _ => ⟨origins, rfl⟩) hmethod hfirst clock server
  refine ⟨result, _, .stopped hfirst (Stage.first_listed hfirst), fun hencodable => ?_⟩
  have hserved : app.serve clock request server = _ := hserve app.dispatcher
  have hsame : unpublished.serve clock request server = _ := hserve unpublished.dispatcher
  rw [hserved, hsame]
  cases result with
  | error problem => exact App.reply_refusal hencodable Option.some_or hheld.leftAlone user rfl
  | ok response =>
    obtain rfl := Stage.stop_ok (Stage.first_stop hfirst)
    exact App.reply_answer hencodable Option.some_or (Or.inl (by decide)) user _

/-- A request that passes all stages is dispatched: its rules decide, and then its use case. -/
theorem decides_dispatched {asked : Request} (hasked : dispatched? identity request = some asked)
    (hquiet : (App.known identity request server).QuietOn publish) (clock : Clock)
    (user : Option Json)
    (hserve : ∀ publish,
      let ran := (Service.dispatcher pattern (Server.execute World.execute) publish clock).dispatch
        asked (App.known identity request server)
      let app := inMemory pattern publish readiness identity origins
      app.serve clock request server =
        app.reply clock request (some (App.correlate request server).1) user (told asked ran.1)
          ran.2) :
    Decides pattern (inMemory pattern publish readiness identity origins)
      (inMemory pattern none readiness identity origins) clock request server := by
  have hknown := App.known_untouched identity request server
  unfold Decides
  rw [hserve publish, hserve none]
  by_cases hvalid : Validation.breaches pattern asked = []
  · refine ⟨_, _, .ran hasked hvalid, ?_⟩
    have hcode := told_code asked clock server.records
    have hdispatch := dispatch_inMemory hvalid hquiet clock
    simp only [hknown.records] at hdispatch
    rcases hdispatch with ⟨failure, held, hresult, halone, hfailed⟩ | ⟨outcome, hresult, hran⟩
    · rw [hresult] at hcode ⊢
      intro hencodable
      rw [hfailed publish, hfailed none, ← hcode]
      exact App.reply_refusal hencodable Option.some_or (hknown.leftAlone.trans halone) user rfl
    · rw [hresult] at hcode ⊢
      intro hencodable
      rw [hran, ← hcode]
      refine App.reply_answer hencodable Option.some_or (Or.inl ?_) user _
      change decidedCode (told asked (.ok outcome)) < 400
      rw [hcode]
      cases asked <;> exact of_decide_eq_true rfl
  · refine ⟨_, _, .invalid hasked hvalid, fun hencodable => ?_⟩
    rw [Service.dispatch_invalid hvalid, Service.dispatch_invalid hvalid]
    exact App.reply_refusal hencodable Option.some_or hknown.leftAlone user rfl

theorem decides_readiness (app : App World) (hpasses : Stage.first? app.identity request = none)
    (hfound : Endpoint.find? request = some .readiness) (clock : Clock) {held : Server World}
    (hrecords : held.records = server.records) (user : Option Json)
    (hserved : app.serve clock request server =
      let ran := app.run clock .readiness held
      app.reply clock request (some (App.correlate request server).1) user ran.1 ran.2)
    (unpublished : App World) :
    Decides pattern app unpublished clock request server := by
  unfold Decides
  rw [hserved]
  simp only [App.run, App.checkReadiness]
  cases hreadiness : app.readiness with
  | none =>
    refine ⟨_, _, .ready hpasses hfound (by simp [hreadiness]), fun hencodable => ?_⟩
    exact App.reply_answer hencodable Option.some_or (Or.inl (by decide)) user _
  | some check =>
    simp only [hrecords]
    rcases hcheck : check server.records with ⟨_ | _, lines, records⟩
    · refine ⟨_, _, .unready hpasses hfound hreadiness (by rw [hcheck]), fun hencodable => ?_⟩
      exact App.reply_answer hencodable Option.some_or (Or.inr rfl) user _
    · refine ⟨_, _, .ready hpasses hfound ?_, fun hencodable => ?_⟩
      · simp [hreadiness, hcheck]
      · exact App.reply_answer hencodable Option.some_or (Or.inl (by decide)) user _

/-- What has the method of sockets is refused before every stage. -/
theorem socket_refused (app : App World) (hmethod : request.method = App.socketMethod)
    (clock : Clock) (unpublished : Response × Server World)
    (hsame : app.serve clock request server = unpublished) :
    Sent request server.context.correlation server (.error .noRequest) 400
      (app.serve clock request server)
      unpublished := by
  have hserved : app.serve clock request server =
      app.reply clock request none none (.error .noRequest) server := by
    unfold App.serve
    rw [if_pos hmethod]
  rw [hserved] at hsame ⊢
  exact App.reply_refusal (by decide +kernel) Option.none_or
    (Server.Untouched.refl server).leftAlone none hsame

/-- A request over HTTP is decided by the first stage that stops it, then by its rules, then by its
use case, and answered with the status of what decides. The dispatcher is called at most once, and
only when every stage has let the request pass. Every refusal but that of the readiness check tells
its problem, with nothing written and nothing published. What is decided is sent so if it can be
encoded. -/
theorem first_stop_decides (pattern : Pattern) (publish : Option (Publish (Server World)))
    (readiness : Option (Readiness World)) (identity : Option IdentityProvider)
    (origins : List String) (clock : Clock) (request : Incoming) (server : Server World)
    (hquiet : (App.known identity request server).QuietOn publish) :
    let app := inMemory pattern publish readiness identity origins
    let unpublished := inMemory pattern none readiness identity origins
    app.DispatchesOnce clock request server ∧
      if request.method = App.socketMethod then
        Sent request server.context.correlation server (.error .noRequest) 400
          (app.serve clock request server)
          (unpublished.serve clock request server)
      else Decides pattern app unpublished clock request server := by
  intro app unpublished
  refine ⟨app.dispatches_once clock request server, ?_⟩
  split
  · rename_i hmethod
    apply socket_refused app hmethod clock
    unfold App.serve
    rw [if_pos hmethod, if_pos hmethod]
    rfl
  · rename_i hmethod
    cases hfirst : Stage.first? identity request with
    | some stopped => exact decides_stopped hmethod hfirst clock
    | none =>
      obtain ⟨user, call, _, hcall, hserve⟩ := App.serve_passed app hfirst clock server
      have hserved : app.serve clock request server = _ := hserve app.dispatcher
      cases call with
      | options allowed => cases hcall
      | health =>
        refine ⟨_, _, .healthy hfirst hcall, fun hencodable => ?_⟩
        rw [hserved]
        exact App.reply_answer hencodable Option.some_or (Or.inl (by decide)) (some user) _
      | readiness =>
        exact decides_readiness app hfirst hcall clock
          (App.known_untouched identity request server).records (some user) hserved unpublished
      | use asked =>
        apply decides_dispatched hcall hquiet clock (some user)
        intro publish
        have hserved := hserve (Service.dispatcher pattern (Server.execute World.execute) publish)
        rw [App.run_use] at hserved
        exact hserved

end Decides

def logging : Server World where
  records := heldReader
  correlations := .after 0
  publishers := [.log]

def deletion : Incoming where
  method := "DELETE"
  path := "/api/v1/roles/00000000000000000000000000000001"

theorem first_stop_decides_deletion :
    let app := inMemory (.star false (.one .dot)) (some Server.publish) none none []
    let unpublished := inMemory (.star false (.one .dot)) none none none []
    (App.known none deletion logging).QuietOn (some Server.publish) ∧
      deletion.method ≠ App.socketMethod ∧
      dispatched? none deletion = some (.deleteRole (Uuid.ofNat 1)) ∧
      app.DispatchesOnce .epoch deletion logging ∧
      Decides (.star false (.one .dot)) app unpublished .epoch deletion logging := by
  intro app unpublished
  have hquiet : (App.known none deletion logging).QuietOn (some Server.publish) :=
    Server.quietOn_log (App.known_untouched none deletion logging).publishers
  have hmethod : deletion.method ≠ App.socketMethod := by decide
  obtain ⟨honce, hdecides⟩ :=
    first_stop_decides (.star false (.one .dot)) (some Server.publish) none none
    [] .epoch deletion logging hquiet
  rw [if_neg hmethod] at hdecides
  exact ⟨hquiet, hmethod, by decide +kernel, honce, hdecides⟩

def socketAsked : Incoming where
  method := "WEBSOCKET"
  path := "/health"
  headers := [("authorization", "Basic abc")]

/-- An update to a name that is half of a surrogate pair, which the answer would repeat. -/
def halfPut : Incoming where
  method := "PUT"
  path := "/api/v1/roles/00000000000000000000000000000001"
  body := "\x7b\"name\":\"\\udc00\"\x7d".toList.map fun c => UInt8.ofNat c.toNat

/-- Three responses that are not what the stages and the use case alone would say: one to `HEAD`,
which has no body to tell its problem; one to the method of sockets, which is refused before its
credentials are; and one that cannot be encoded, which tells of no success although the role is
changed and the event published. -/
theorem stages_do_not_decide_alone :
    let app :=
      inMemory (.star false (.one .dot)) (some Server.publish) none (some fun _ => .inactive) []
    let head := app.serve .epoch { method := "HEAD", path := "/health" } logging
    let socket := app.serve .epoch socketAsked logging
    let half := app.serve .epoch halfPut logging
    (head.1.status.code = 405 ∧ head.1.body.isNone = true) ∧
      ((Stage.first? app.identity socketAsked).map (·.1) = some .authentication ∧
        socket.1.status.code = 400) ∧
      half.1.status.code = 500 ∧ half.1.body.isNone = true ∧
        half.2.records.store.roles.rows.map (·.name) ≠ ["reader"] ∧
        half.2.published.length = 1 := by
  refine ⟨?_, ?_, ?_⟩
  · decide +kernel
  · decide +kernel
  · decide +kernel

end Rbac.Http
