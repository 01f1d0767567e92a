import Rbac.Proofs.Announcements
import Rbac.Proofs.Http.Responses

namespace Rbac

namespace Http.Identity

variable (provider : IdentityProvider) (request : Incoming)

def credentials : String :=
  (request.header? "authorization").getD ""

def introspected? : Option Introspection :=
  if (credentials request).startsWith scheme then
    some (provider ((credentials request).drop scheme.length).toString)
  else none

/-- Whether a request carries a bearer token that the provider calls active. -/
def Admits : Prop :=
  ∃ subject, introspected? provider request = some (.active subject)

/-- The id that a subject denotes, if it denotes one. A subject is to be a text: what is none cannot
be read as an id, unless it counts as no subject at all. -/
def subjectId? : Json → Except Failure (Option Uuid)
  | .str text => .ok (Uuid.ofText? text)
  | subject => if subject.isTruthy then .error (.noOperation subject.kind "replace") else .ok none

/-- Who acts in a request by its own credentials: whom the subject of its active token denotes. -/
def actorOf : Except Failure (Option Uuid) :=
  match introspected? provider request with
  | some (.active subject) => subjectId? subject
  | _ => .ok none

variable {provider request}

theorem authenticate_eq : authenticate (some provider) request =
    if (credentials request).isEmpty then (.ok anonymous, [])
    else match introspected? provider request with
      | some (.active subject) => (.ok subject, [])
      | some .inactive => (.error rejected, [])
      | some (.unavailable reason) => (.error rejected, [unavailableLine reason])
      | none => (.error noBearer, []) := by
  change (if (credentials request).isEmpty then ((.ok anonymous, []) : Except Problem Json × _)
    else if (credentials request).startsWith scheme then
      ofToken provider ((credentials request).drop scheme.length).toString
    else (.error noBearer, [])) = _
  unfold introspected? ofToken
  by_cases hscheme : (credentials request).startsWith scheme = true
  · simp only [hscheme, if_true]
    cases provider ((credentials request).drop scheme.length).toString <;> rfl
  · simp only [if_neg hscheme]

theorem introspected_empty (h : (credentials request).isEmpty = true) :
    introspected? provider request = none := by
  have hempty : credentials request = "" := String.isEmpty_iff.mp h
  unfold introspected?
  rw [hempty]
  exact if_neg (by decide +kernel)

theorem authenticate_refused (hgiven : (credentials request).isEmpty = false)
    (hadmits : ¬ Admits provider request) :
    ∃ problem ∈ [noBearer, rejected],
      (authenticate (some provider) request).1 = .error problem := by
  rw [authenticate_eq, hgiven]
  cases hintrospected : introspected? provider request with
  | none => exact ⟨noBearer, by simp, rfl⟩
  | some introspection =>
    cases introspection with
    | active subject => exact absurd ⟨subject, hintrospected⟩ hadmits
    | inactive => exact ⟨rejected, by simp, rfl⟩
    | unavailable reason => exact ⟨rejected, by simp, rfl⟩

theorem authenticate_ok {user : Json}
    (h : (authenticate (some provider) request).1 = .ok user) :
    user = anonymous ∧ introspected? provider request = none ∨
      introspected? provider request = some (.active user) := by
  rw [authenticate_eq] at h
  split at h
  · rename_i hempty
    cases h
    exact Or.inl ⟨rfl, introspected_empty hempty⟩
  · split at h
    · rename_i subject hactive
      cases h
      exact Or.inr hactive
    · cases h
    · cases h
    · cases h

/-- A subject that is a text names the id that it denotes. That of the anonymous user and the empty
one are set apart before they are read, and denote none either way. -/
theorem actorId_text (context : Context) (text : Text) :
    ({ context with actor := actor (.str text) } : Context).actorId? =
      .ok (Uuid.ofText? text) := by
  by_cases hanonymous : text = Text.ofString anonymousName
  · rw [hanonymous]
    have hactor : actor (.str (Text.ofString anonymousName)) = .null := rfl
    rw [hactor]
    have hread : Uuid.ofText? (Text.ofString anonymousName) = none := by decide +kernel
    rw [hread]
    rfl
  · have hactor : actor (.str text) = .str text := if_neg hanonymous
    rw [hactor]
    exact Context.actorId?_str context.correlation text

theorem actorId_subject (context : Context) (subject : Json) :
    ({ context with actor := actor subject } : Context).actorId? = subjectId? subject := by
  cases subject with
  | str text => exact actorId_text context text
  | _ =>
    simp only [actor, Context.actorId?, subjectId?, Bool.not_eq_true', ← Bool.not_eq_true, ite_not]

/-- What reaches the dispatcher has its actor set by its own credentials, whatever the context was.
-/
theorem known_actor {ω : Type} {asked : Request}
    (hasked : dispatched? (some provider) request = some asked) (server : Server ω) :
    (App.known (some provider) request server).context.actorId? = actorOf provider request := by
  have hstop := List.findSome?_eq_none_iff.mp (App.dispatched_passes hasked) .authentication
    (by decide)
  simp only [Stage.stop?, Option.map_eq_none_iff] at hstop
  rcases hauth : authenticate (some provider) request with ⟨problem | user, lines⟩
  · simp [hauth] at hstop
  · have hknown : (App.known (some provider) request server).context =
        { (App.correlate request server).2.context with actor := actor user } := by
      simp only [App.known, hauth, Server.log]
    rw [hknown]
    rcases authenticate_ok (congrArg Prod.fst hauth) with ⟨rfl, hnone⟩ | hactive
    · simp only [actorOf, hnone]
      rfl
    · simp only [actorOf, hactive]
      exact actorId_subject _ user

end Http.Identity

/-- Posts of entries about events, each in the name of whoever acts in its event for an actor. There
are none for an actor that cannot be read. -/
def Attributed (actor : Except Failure (Option Uuid)) (events : List Event) (posts : List Post) :
    Prop :=
  ∀ post ∈ posts, ∃ who, actor = .ok who ∧ ∃ event ∈ events, ∃ user service correlation,
    event.actor? who = some user ∧ post.entry = .ofEvent event user service correlation

theorem Attributed.nil (actor : Except Failure (Option Uuid)) (events : List Event) :
    Attributed actor events [] := by
  intro post hpost
  cases hpost

theorem Attributed.append {actor : Except Failure (Option Uuid)} {events : List Event}
    {posts more : List Post} (h : Attributed actor events posts)
    (hmore : Attributed actor events more) : Attributed actor events (posts ++ more) := by
  intro post hpost
  rcases List.mem_append.mp hpost with hin | hin
  · exact h post hin
  · exact hmore post hin

theorem Attempt.journals_attributed {context : Context} {events : List Event}
    {attempts : List Attempt} (h : ∀ attempt ∈ attempts, attempt.Planned context events) :
    Attributed context.actorId? events (journals attempts).posts := by
  induction attempts with
  | nil => exact .nil _ events
  | cons first rest ih =>
    obtain ⟨hfirst, hrest⟩ := List.forall_mem_cons.mp h
    rw [journals_cons, Journal.posts_append]
    refine Attributed.append ?_ (ih hrest)
    cases hfirst with
    | logged => exact .nil _ _
    | withheld => exact .nil _ _
    | @posted event actor user url service reply mem reads acts =>
      intro post hpost
      rw [posts_posted] at hpost
      obtain rfl := List.mem_singleton.mp hpost
      exact ⟨actor, reads, event, mem, user, service, context.correlation, acts, rfl⟩

namespace Http

variable {ω : Type}

theorem Server.dispatch_attributed (pattern : Pattern) (execution : Execution ω) (clock : Clock)
    (asked : Request) (server : Server ω) :
    let ran := (dispatcher pattern execution clock).dispatch asked server
    ∃ events posts, ran.2.published = server.published ++ events ∧
      ran.2.journal.posts = server.journal.posts ++ posts ∧
      Attributed server.context.actorId? events posts := by
  intro ran
  obtain ⟨events, attempts, h⟩ := dispatch_announced pattern execution clock asked server
  refine ⟨events, _, h.published, ?_, Attempt.journals_attributed h.planned⟩
  rw [h.journal, Journal.posts_append]

namespace App

def after (app : App ω) (requests : List (Clock × Incoming)) (server : Server ω) : Server ω :=
  requests.foldl (fun server (clock, request) => (app.serve clock request server).2) server

theorem serve_unauthorized (app : App ω) {request : Incoming} {problem : Problem}
    (hoptions : request.method ≠ Call.optionsMethod) (hmethod : request.method ≠ socketMethod)
    (hauth : (Identity.authenticate app.identity request).1 = .error problem) (clock : Clock)
    (server : Server ω) :
    app.serve clock request server =
      app.reply clock request (some (correlate request server).1) none (.error problem)
        (known app.identity request server) := by
  apply serve_request app hmethod
  unfold known
  rcases hall : Identity.authenticate app.identity request with ⟨_ | user, lines⟩
  · rw [hall] at hauth
    cases hauth
    simp only [identify, if_neg hoptions, hall]
  · rw [hall] at hauth
    cases hauth

theorem refused_untouched (app : App ω) {provider : IdentityProvider} {request : Incoming}
    (hidentity : app.identity = some provider) (hoptions : request.method ≠ Call.optionsMethod)
    (hmethod : request.method ≠ socketMethod)
    (hgiven : (Identity.credentials request).isEmpty = false)
    (hadmits : ¬ Identity.Admits provider request) (clock : Clock) (server : Server ω) :
    let served := app.serve clock request server
    served.1.status.code = 401 ∧ served.1.header? "www-authenticate" = some "Bearer" ∧
      server.Untouched served.2 ∧
      ∀ dispatcher readiness,
        { app with dispatcher, readiness }.serve clock request server = served := by
  obtain ⟨problem, hproblem, hauth⟩ := Identity.authenticate_refused hgiven hadmits
  rw [← hidentity] at hauth
  have hserve : ∀ dispatcher readiness,
      { app with dispatcher, readiness }.serve clock request server =
      app.reply clock request (some (correlate request server).1) none (.error problem)
        (known app.identity request server) := fun dispatcher readiness =>
    serve_unauthorized { app with dispatcher, readiness } hoptions hmethod hauth clock server
  intro served
  have hserved : served = _ := hserve app.dispatcher app.readiness
  obtain ⟨hencodable, hcode, hheader⟩ : isEncodable (.error problem) = true ∧
      problem.status.code = 401 ∧
      (problem.response request.path (some (correlate request server).1)).header?
        "www-authenticate" = some "Bearer" := by
    simp only [List.mem_cons, List.not_mem_nil, or_false] at hproblem
    rcases hproblem with rfl | rfl
    · exact ⟨by decide +kernel, rfl, rfl⟩
    · exact ⟨by decide +kernel, rfl, rfl⟩
  have hname : "www-authenticate" ∉ addedHeaders := by decide
  rw [hserved]
  refine ⟨(app.reply_code hencodable _ _ _).trans hcode, ?_, ?_, hserve⟩
  · rw [app.reply_encodable hencodable]
    exact (app.finish_keeps request _ _ hname).2.2.trans hheader
  · exact (known_untouched app.identity request server).trans
      (app.reply_untouched clock request _ _ _ _)

theorem serve_dispatched (app : App ω) {request : Incoming} {asked : Request}
    (hasked : dispatched? app.identity request = some asked) (clock : Clock) (server : Server ω) :
    let ran := (app.dispatcher clock).dispatch asked (known app.identity request server)
    ∃ user, app.serve clock request server =
      app.reply clock request (some (correlate request server).1) user (told asked ran.1)
        ran.2 := by
  have honce := app.dispatches_once clock request server
  unfold DispatchesOnce at honce
  rw [hasked] at honce
  obtain ⟨user, hserve⟩ := honce
  exact ⟨user, (hserve app.dispatcher).1⟩

/-- What reaches the dispatcher does so in the name of its own actor. -/
theorem dispatched_actor (app : App ω) {provider : IdentityProvider} {request : Incoming}
    {asked : Request} (hidentity : app.identity = some provider)
    (hasked : dispatched? app.identity request = some asked) (server : Server ω) :
    (known app.identity request server).context.actorId? =
      Identity.actorOf provider request := by
  rw [hidentity] at hasked ⊢
  exact Identity.known_actor hasked server

theorem dispatched_attributed (app : App ω) {provider : IdentityProvider} {request : Incoming}
    {asked : Request} (hidentity : app.identity = some provider)
    (hasked : dispatched? app.identity request = some asked) {pattern : Pattern}
    {execution : Execution ω} (hdispatcher : app.dispatcher = Server.dispatcher pattern execution)
    (clock : Clock) (server : Server ω) :
    let served := app.serve clock request server
    ∃ events posts, served.2.published = server.published ++ events ∧
      served.2.journal.posts = server.journal.posts ++ posts ∧
      Attributed (Identity.actorOf provider request) events posts := by
  obtain ⟨user, hserved⟩ := app.serve_dispatched hasked clock server
  rw [hdispatcher] at hserved
  obtain ⟨events, posts, hpublished, hposts, hattributed⟩ :=
    Server.dispatch_attributed pattern execution clock asked (known app.identity request server)
  rw [app.dispatched_actor hidentity hasked server] at hattributed
  have hknown := known_untouched app.identity request server
  have hreply := app.reply_untouched clock request (some (correlate request server).1) user
    (told asked ((Server.dispatcher pattern execution clock).dispatch asked
      (known app.identity request server)).1)
    ((Server.dispatcher pattern execution clock).dispatch asked
      (known app.identity request server)).2
  rw [← hserved] at hreply
  intro served
  refine ⟨events, posts, ?_, ?_, hattributed⟩
  · rw [hreply.published, hpublished, hknown.published]
  · rw [hreply.posts, hposts, hknown.posts]

end App

/-- With an identity provider, whatever requests came before in the same context: a request whose
credentials are no active bearer token is answered so and reaches nothing, and one that reaches the
dispatcher does so once, in the name of whom its own token names, who also acts in the entries about
the events that it publishes. -/
theorem actor_is_of_own_credentials (app : App ω) (provider : IdentityProvider)
    (hidentity : app.identity = some provider) (earlier : List (Clock × Incoming))
    (start : Server ω) (clock : Clock) (request : Incoming) :
    let server := app.after earlier start
    let served := app.serve clock request server
    (request.method ≠ "OPTIONS" → request.method ≠ "WEBSOCKET" →
      (Identity.credentials request).isEmpty = false → ¬ Identity.Admits provider request →
      served.1.status.code = 401 ∧ served.1.header? "www-authenticate" = some "Bearer" ∧
        server.Untouched served.2 ∧
        ∀ dispatcher readiness,
          { app with dispatcher, readiness }.serve clock request server = served) ∧
    app.DispatchesOnce clock request server ∧
    ∀ asked, dispatched? app.identity request = some asked →
      (App.known app.identity request server).context.actorId? =
          Identity.actorOf provider request ∧
        ∀ pattern execution, app.dispatcher = Server.dispatcher pattern execution →
          ∃ events posts, served.2.published = server.published ++ events ∧
            served.2.journal.posts = server.journal.posts ++ posts ∧
            Attributed (Identity.actorOf provider request) events posts := by
  intro server served
  refine ⟨?_, app.dispatches_once clock request server, ?_⟩
  · intro hoptions hmethod hgiven hadmits
    exact app.refused_untouched hidentity hoptions hmethod hgiven hadmits clock server
  · intro asked hasked
    refine ⟨app.dispatched_actor hidentity hasked server, ?_⟩
    intro pattern execution hdispatcher
    exact app.dispatched_attributed hidentity hasked hdispatcher clock server

def staff : IdentityProvider := fun token =>
  if token = "alice" then .active (.str "0000000000000000000000000000000a")
  else if token = "bob" then .active (.str "0000000000000000000000000000000b")
  else .inactive

def deletionBy (credentials : String) : Incoming where
  method := "DELETE"
  path := "/api/v1/roles/00000000000000000000000000000001"
  headers := [("authorization", credentials)]

def audited : App World where
  dispatcher := Server.dispatcher (.star false (.one .dot)) World.execute
  identity := some staff

/-- After a request of one user, that of another one acts in its own name, and one without a valid
token is refused. -/
theorem actor_is_of_own_credentials_staff :
    let server := audited.after [(.epoch, deletionBy "Bearer alice")] (Server.auditing [])
    audited.identity = some staff ∧
      dispatched? (some staff) (deletionBy "Bearer bob") = some (.deleteRole (Uuid.ofNat 1)) ∧
      (App.known audited.identity (deletionBy "Bearer bob") server).context.actorId?.toOption =
        some (some (Uuid.ofNat 11)) ∧
      ¬ Identity.Admits staff (deletionBy "Bearer eve") ∧
      (audited.serve .epoch (deletionBy "Bearer eve") server).1.status.code = 401 := by
  intro server
  have hdispatched : dispatched? (some staff) (deletionBy "Bearer bob") =
      some (.deleteRole (Uuid.ofNat 1)) := by decide +kernel
  have hactor : (Identity.actorOf staff (deletionBy "Bearer bob")).toOption =
      some (some (Uuid.ofNat 11)) := by decide +kernel
  have hadmits : ¬ Identity.Admits staff (deletionBy "Bearer eve") := by
    rintro ⟨subject, h⟩
    have hinactive : (Identity.introspected? staff (deletionBy "Bearer eve")).any
        (· matches .inactive) = true := by decide +kernel
    rw [h] at hinactive
    cases hinactive
  obtain ⟨_, _, hown⟩ := actor_is_of_own_credentials audited staff rfl
    [(.epoch, deletionBy "Bearer alice")] (Server.auditing []) .epoch (deletionBy "Bearer bob")
  obtain ⟨hrefused, _⟩ := actor_is_of_own_credentials audited staff rfl
    [(.epoch, deletionBy "Bearer alice")] (Server.auditing []) .epoch (deletionBy "Bearer eve")
  obtain ⟨hbob, _⟩ := hown _ hdispatched
  obtain ⟨hcode, _⟩ := hrefused (by decide) (by decide) (by decide +kernel) hadmits
  exact ⟨rfl, hdispatched, (congrArg Except.toOption hbob).trans hactor, hadmits, hcode⟩

/-- A request with the method of sockets is refused for its method, whatever its credentials; and a
subject that is no text cannot even be asked for an id. -/
theorem credentials_not_asked_first :
    let numbered : App World := { audited with identity := some fun _ => .active (.ofNat 5) }
    let socket := { deletionBy "Basic abc" with method := "WEBSOCKET" }
    let answer := (audited.serve .epoch socket (Server.auditing [])).1
    let server := App.known numbered.identity (deletionBy "Bearer any") (Server.auditing [])
    (answer.status.code = 400 ∧ answer.header? "www-authenticate" = none) ∧
      (dispatched? numbered.identity (deletionBy "Bearer any")).isSome = true ∧
        server.context.actorId?.isOk = false := by
  refine ⟨?_, ?_⟩
  · decide +kernel
  · decide +kernel

end Http
end Rbac
