import Rbac.Proofs.Http.Attribution
import Rbac.Proofs.Http.Headers
import Rbac.Proofs.Http.Journals
import Rbac.Proofs.Http.Pipeline
import Rbac.Proofs.Spellings

namespace Rbac

theorem Uuid.text_length (id : Uuid) : id.text.length = 36 := by
  have hdigits := Text.hexDigits_length 32 id.value
  have hlength : id.chars.length = 36 := by
    simp [chars, group, hdigits]
  rw [text, String.length_ofList, hlength]

namespace Http

/-- What a request brings as its correlation id. -/
def brought (request : Incoming) : String :=
  Text.trim ((request.header? "x-correlation-id").getD "")

/-- The correlation id of a request: what it brings, cut to a hundred characters, or a fresh id if
it brings nothing. -/
def correlationId (request : Incoming) (fresh : Uuid) : String :=
  if brought request = "" then fresh.text
  else String.ofList ((brought request).toList.take 100)

theorem correlationId_length (request : Incoming) (fresh : Uuid) :
    0 < (correlationId request fresh).length ∧ (correlationId request fresh).length ≤ 100 := by
  unfold correlationId
  split
  · rw [fresh.text_length]
    omega
  · rename_i hbrought
    have hsome : (brought request).toList ≠ [] := mt String.toList_eq_nil_iff.mp hbrought
    have hpos : 0 < (brought request).toList.length := List.length_pos_iff.mpr hsome
    rw [String.length_ofList, List.length_take]
    omega

theorem correlationId_ne_empty (request : Incoming) (fresh : Uuid) :
    correlationId request fresh ≠ "" := by
  intro hempty
  have hlength := (correlationId_length request fresh).1
  simp [hempty] at hlength

theorem correlationOf_id (request : Incoming) (fresh : Uuid) :
    AuditEntry.correlationOf (some (correlationId request fresh)) =
      some (correlationId request fresh) := by
  have hlength : (correlationId request fresh).toList.length ≤ 100 :=
    (correlationId_length request fresh).2
  simp [AuditEntry.correlationOf, Option.filter, correlationId_ne_empty request fresh,
    AuditEntry.correlationLimit, List.take_of_length_le hlength]

namespace App

variable {ω : Type}

def draws (request : Incoming) : Bool :=
  request.method ≠ socketMethod ∧ brought request = ""

theorem correlation_brought (request : Incoming) :
    correlation? request = if brought request = "" then none
      else some (String.ofList ((brought request).toList.take 100)) := by
  have hheader : correlationHeader = "x-correlation-id" := by decide +kernel
  have hbrought : Text.trim ((request.header? correlationHeader).getD "") = brought request := by
    rw [hheader, brought]
  simp only [correlation?, hbrought, AuditEntry.correlationLimit, String.isEmpty_iff]

/-- A request is given its correlation id; a fresh one is drawn only for a request that brings
none. -/
theorem correlate_eq (request : Incoming) (server : Server ω) :
    let id := correlationId request server.correlations.next
    correlate request server = (id, { server with
      correlations := if brought request = "" then server.correlations.advance
        else server.correlations,
      context := { server.context with correlation := some id } }) := by
  rw [correlate, correlation_brought]
  by_cases hbrought : brought request = ""
  · simp [correlationId, hbrought]
  · simp [correlationId, hbrought]

theorem known_correlation (identity : Option IdentityProvider) (request : Incoming)
    (server : Server ω) :
    (known identity request server).context.correlation =
      some (correlationId request server.correlations.next) := by
  unfold known
  rw [correlate_eq]
  rcases Identity.authenticate identity request with ⟨problem | user, lines⟩
  · rfl
  · rfl

/-- The server once the correlation id of a request is set. What has the method of sockets gets
none. -/
def correlated (request : Incoming) (server : Server ω) : Server ω :=
  if request.method = socketMethod then server else (correlate request server).2

theorem correlated_journal (request : Incoming) (server : Server ω) :
    (correlated request server).journal = server.journal := by
  unfold correlated
  split
  · rfl
  · rw [correlate_eq]

def decided (app : App ω) (clock : Clock) (request : Incoming) (server : Server ω) :
    Except Problem Response :=
  if request.method = socketMethod then .error .noRequest
  else (app.identify clock request (correlate request server).2).2.1

variable {app : App ω} {pattern : Pattern} {execution : Execution ω}

/-- Serving replies to what has been decided, once it has been worked on under the correlation id
that the request is served under. -/
theorem Serves.serve (h : app.Serves pattern execution) (clock : Clock) (request : Incoming)
    (server : Server ω) :
    ∃ user held, (correlated request server).Proceeds held ∧ app.serve clock request server =
      app.reply clock request (servedUnder request server) user (app.decided clock request server)
        held := by
  by_cases hmethod : request.method = socketMethod
  · simp only [if_pos hmethod, correlated, servedUnder, decided]
    refine ⟨none, server, .refl server, ?_⟩
    unfold App.serve
    rw [if_pos hmethod]
  · simp only [if_neg hmethod, correlated, servedUnder, decided]
    exact ⟨_, _, h.identify clock request (correlate request server).2,
      serve_request app hmethod clock server rfl⟩

theorem Serves.serve_supply (h : app.Serves pattern execution) (clock : Clock)
    (request : Incoming) (server : Server ω) :
    (app.serve clock request server).2.correlations =
      if draws request then server.correlations.advance else server.correlations := by
  obtain ⟨user, held, hproceeds, hserved⟩ := h.serve clock request server
  obtain ⟨before, name, after, _, hreply⟩ := app.reply_logged request
    (servedUnder request server) user (app.decided clock request server) held
  have hkept : (app.serve clock request server).2.correlations = held.correlations := by
    rw [hserved, hreply]
    rfl
  rw [hkept, hproceeds.correlations]
  by_cases hmethod : request.method = socketMethod
  · simp [draws, correlated, hmethod]
  · by_cases hbrought : brought request = ""
    · simp [draws, correlated, hmethod, hbrought, correlate_eq]
    · simp [draws, correlated, hmethod, hbrought, correlate_eq]

/-- The ids that earlier requests have drawn are used up, and no others. -/
theorem Serves.after_supply (h : app.Serves pattern execution)
    (earlier : List (Clock × Incoming)) (start : Server ω) :
    (app.after earlier start).correlations =
      ⟨start.correlations.ids,
        start.correlations.used + earlier.countP fun (_, asked) => draws asked⟩ := by
  induction earlier generalizing start with
  | nil => rfl
  | cons first rest ih =>
    obtain ⟨clock, request⟩ := first
    have hafter : app.after ((clock, request) :: rest) start =
        app.after rest (app.serve clock request start).2 := rfl
    rw [hafter, ih, h.serve_supply]
    by_cases hdraws : draws request = true
    · simp [hdraws, Supply.advance]
      omega
    · simp [hdraws]

theorem decided_answered (app : App ω) (clock : Clock) (request : Incoming) (server : Server ω) :
    Answered (app.decided clock request server) := by
  unfold decided
  split
  · intro response hresult
    cases hresult
  · exact app.identify_answered clock request _

theorem reply_correlation (app : App ω) {clock : Clock} (request : Incoming) (id : String)
    (user : Option Json)
    {result : Except Problem Response} (h : Answered result) (server : Server ω) {body : Json}
    (hbody : (app.reply clock request (some id) user result server).1.body = some body)
    (htype : (app.reply clock request (some id) user result server).1.header? "content-type" =
      some "application/problem+json") :
    body.member? "correlationId" = some (.str id) := by
  cases hencodable : isEncodable result with
  | false =>
    simp only [reply, send, hencodable] at hbody
    cases hbody
  | true =>
    rw [reply_encodable app hencodable, Option.some_or] at hbody htype
    have hname : "content-type" ∉ addedHeaders := by decide
    obtain ⟨_, hkept, hheader⟩ :=
      app.finish_keeps request (some id) (settle request (some id) result server).1 hname
    cases result with
    | ok response => exact absurd (hheader.symm.trans htype) (h response rfl).type
    | error problem =>
      rw [hkept] at hbody
      split at hbody
      · cases hbody
      · obtain rfl := Option.some.inj hbody
        simp [Problem.body, Json.member?, Json.ofText?]

end App

/-- What is served under a correlation id: the response names it, the problem that it may tell names
it, and so do all posts. -/
structure Carries {ω : Type} (id : String) (server : Server ω) (served : Response × Server ω) :
    Prop where
  header : served.1.header? "x-correlation-id" = some id
  problem : ∀ body, served.1.body = some body →
    served.1.header? "content-type" = some "application/problem+json" →
      body.member? "correlationId" = some (.str id)
  posts : ∃ posts, served.2.journal.posts = server.journal.posts ++ posts ∧
    ∀ post ∈ posts, post.entry.correlation = some id

def App.publishing {ω : Type} (app : App ω) (pattern : Pattern) (execution : Execution ω)
    (publish : Publish (Server ω)) : App ω :=
  { app with dispatcher := Service.dispatcher pattern (Server.execute execution) (some publish) }

/-- A publisher is told nothing but in the context of the correlation id: what it would do in any
other makes no difference. -/
def PublishesUnder {ω : Type} (id : String) (app : App ω) (pattern : Pattern)
    (execution : Execution ω) (clock : Clock) (request : Incoming) (server : Server ω) : Prop :=
  ∀ publish other : Publish (Server ω),
    (∀ events told, told.context.correlation = some id → publish events told = other events told) →
      (app.publishing pattern execution publish).serve clock request server =
        (app.publishing pattern execution other).serve clock request server

namespace App

variable {ω : Type} {app : App ω} {pattern : Pattern} {execution : Execution ω}

theorem Serves.carries (h : app.Serves pattern execution) {request : Incoming}
    (hmethod : request.method ≠ socketMethod) (clock : Clock) (server : Server ω) :
    Carries (correlationId request server.correlations.next) server
      (app.serve clock request server) := by
  have hunder : servedUnder request server =
      some (correlationId request server.correlations.next) := by
    rw [servedUnder, if_neg hmethod, correlate_eq]
  obtain ⟨user, held, hproceeds, hserved⟩ := h.serve clock request server
  refine ⟨?_, ?_, ?_⟩
  · have hname : correlationHeader = "x-correlation-id" := by decide +kernel
    have hadded : "x-correlation-id" ∈ addedHeaders := by
      rw [← hname]
      simp [addedHeaders]
    rw [app.serve_header clock request server hadded, hunder]
    simp [added, hname]
  · rw [hserved, hunder]
    intro body hbody htype
    exact app.reply_correlation request _ user (app.decided_answered clock request server) held
      hbody
      htype
  · obtain ⟨more, hjournal, hleft⟩ := hproceeds.journal
    rw [correlated_journal] at hjournal
    rw [correlated, if_neg hmethod, correlate_eq] at hleft
    have hreply := app.reply_untouched clock request (servedUnder request server) user
      (app.decided clock request server) held
    refine ⟨more.posts, ?_, ?_⟩
    · rw [hserved, hreply.posts, hjournal, Journal.posts_append]
    · intro post hpost
      exact (hleft.named post hpost).trans (correlationOf_id request _)

/-- Dispatching tells a publisher of events in the context that the request is dispatched in. -/
theorem dispatch_told_alike {publish other : Publish (Server ω)} {server : Server ω}
    (h : ∀ events told, told.context = server.context → publish events told = other events told)
    (pattern : Pattern) (execution : Execution ω) (clock : Clock) (asked : Request) :
    (Service.dispatcher pattern (Server.execute execution) (some publish) clock).dispatch asked
      server =
      (Service.dispatcher pattern (Server.execute execution) (some other) clock).dispatch asked
        server := by
  by_cases hvalid : Validation.breaches pattern asked = []
  · rw [Service.dispatch_valid hvalid, Service.dispatch_valid hvalid]
    have hexecute : (Server.execute execution (asked.useCase clock) server).2.context =
        server.context := rfl
    rcases hran : Server.execute execution (asked.useCase clock) server
      with ⟨failure | ⟨value, events⟩, after⟩
    · rfl
    · rw [hran] at hexecute
      cases events with
      | none => rfl
      | some events =>
        cases events with
        | nil => rfl
        | cons event rest =>
          simp only [Dispatcher.announce, Service.dispatcher, h (event :: rest) after hexecute]
  · rw [Service.dispatch_invalid hvalid, Service.dispatch_invalid hvalid]

theorem publishesUnder (app : App ω) (pattern : Pattern) (execution : Execution ω) (clock : Clock)
    (request : Incoming) (server : Server ω) :
    PublishesUnder (correlationId request server.correlations.next) app pattern execution clock
      request server := by
  intro publish other halike
  have honce := app.dispatches_once clock request server
  unfold DispatchesOnce at honce
  cases hasked : dispatched? app.identity request with
  | none =>
    rw [hasked] at honce
    exact (honce _).trans (honce _).symm
  | some asked =>
    rw [hasked] at honce
    obtain ⟨user, hserve⟩ := honce
    have hknown : ∀ events told, told.context = (known app.identity request server).context →
        publish events told = other events told := by
      intro events told hcontext
      apply halike
      rw [hcontext, known_correlation]
    have htold := dispatch_told_alike hknown pattern execution clock asked
    refine (hserve _).1.trans (Eq.trans ?_ (hserve _).1.symm)
    simp only [htold]

end App

/-- One line tells of the request served: with the status that has been decided, which is that of
the response unless its body cannot be encoded. -/
structure LoggedOnce {ω : Type} (app : App ω) (clock : Clock) (request : Incoming)
    (server : Server ω) (served : Response × Server ω) : Prop where
  line : ∃ lines name, served.2.journal.logs = server.journal.logs ++ lines ∧
    lines.filter (·.IsAccess) =
      [App.servedLine clock request (App.decidedStatus (app.decided clock request server)) name]
  sent : App.isEncodable (app.decided clock request server) = true →
    served.1.status = App.decidedStatus (app.decided clock request server)

theorem App.Serves.loggedOnce {ω : Type} {app : App ω} {pattern : Pattern}
    {execution : Execution ω} (h : app.Serves pattern execution) (clock : Clock)
    (request : Incoming) (server : Server ω) :
    LoggedOnce app clock request server (app.serve clock request server) := by
  obtain ⟨user, held, hproceeds, hserved⟩ := h.serve clock request server
  obtain ⟨before, name, after, hsilent, hreply⟩ := app.reply_logged request
    (servedUnder request server) user (app.decided clock request server) held
  obtain ⟨more, hjournal, hleft⟩ := hproceeds.journal
  rw [correlated_journal] at hjournal
  let line := servedLine clock request (decidedStatus (app.decided clock request server)) name
  have hothers : ∀ other ∈ (more.logs ++ before) ++ after, ¬ other.IsAccess := by
    intro other hin
    rw [List.append_assoc] at hin
    rcases List.mem_append.mp hin with hin | hin
    · exact hleft.silent other hin
    · exact hsilent other hin
  refine ⟨⟨more.logs ++ before ++ line :: after, name, ?_, ?_⟩, ?_⟩
  · rw [hserved, hreply]
    simp [Server.log, hjournal, List.append_assoc, line]
  · exact LogLine.filter_access hothers rfl
  · intro hencodable
    rw [hserved, reply_encodable app hencodable, finish_status]

/-- Whatever requests came before in the same context, a request is served under one correlation id:
the one it brings, stripped and cut, or if that is nothing a fresh one, whose number tells how many
have been drawn before. The response names it, and so do the problem that it may tell and all that
is posted; publishers are told nothing but in its context. And one line tells of every request, with
the status of its response if that can be encoded. -/
theorem one_correlation_id {ω : Type} (app : App ω) {pattern : Pattern} {execution : Execution ω}
    (h : app.Serves pattern execution) (earlier : List (Clock × Incoming)) (start : Server ω)
    (clock : Clock) (request : Incoming) :
    let server := app.after earlier start
    let served := app.serve clock request server
    let drawn := earlier.countP fun (_, asked) => App.draws asked
    let id := correlationId request (start.correlations.ids (start.correlations.used + drawn))
    LoggedOnce app clock request server served ∧
      (request.method ≠ "WEBSOCKET" →
        0 < id.length ∧ id.length ≤ 100 ∧ Carries id server served ∧
          PublishesUnder id app pattern execution clock request server) := by
  intro server served drawn id
  have hid : id = correlationId request server.correlations.next := by
    have hsupply : server.correlations = _ := h.after_supply earlier start
    rw [hsupply]
    rfl
  refine ⟨h.loggedOnce clock request server, fun hmethod => ?_⟩
  have hlength := correlationId_length request server.correlations.next
  rw [hid]
  exact ⟨hlength.1, hlength.2, h.carries hmethod clock server,
    app.publishesUnder pattern execution clock request server⟩

def idleReader : Server World :=
  { Server.auditing [] with
    records := { store := { heldReader.store with assignments := .empty }, supply := .after 9 } }

/-- A deletion under an id that it brings with blanks around it. -/
def namedDeletion : Incoming :=
  { deletionBy "Bearer bob" with
    headers := [("authorization", "Bearer bob"), ("x-correlation-id", "  abc ")] }

/-- After a request that was refused under a fresh id, one that brings its own is served under that,
stripped, and its event is posted under it. The deployed service serves alike. -/
theorem one_correlation_id_brought :
    let server := audited.after [(.epoch, deletionBy "Bearer eve")] idleReader
    let served := audited.serve .epoch namedDeletion server
    audited.Serves (.star false (.one .dot)) World.execute ∧
      (Deployment.appOf {} (.star false (.one .dot))).Serves (.star false (.one .dot))
        Sql.Connection.execute ∧
      namedDeletion.method ≠ "WEBSOCKET" ∧ Carries "abc" server served ∧
      served.2.journal.posts.map (·.entry.correlation) = [some "abc"] := by
  intro server served
  have hserves : audited.Serves (.star false (.one .dot)) World.execute := ⟨rfl, by simp [audited]⟩
  have hmethod : namedDeletion.method ≠ "WEBSOCKET" := by decide
  have hid : correlationId namedDeletion (Uuid.ofNat 2) = "abc" := by decide +kernel
  obtain ⟨_, hcarries⟩ := one_correlation_id audited hserves
    [(.epoch, deletionBy "Bearer eve")] idleReader .epoch namedDeletion
  refine ⟨hserves, App.serves_deployed _ _, hmethod, ?_, by decide +kernel⟩
  rw [← hid]
  exact (hcarries hmethod).2.2.1

/-- What has the method of sockets is served under no id at all; and the line that tells of a
response that cannot be encoded has the status from before this was found out. -/
theorem socket_carries_no_id :
    let app := inMemory (.star false (.one .dot)) (some Server.publish) none none []
    let socket := (app.serve .epoch socketAsked logging).1
    let half := app.serve .epoch halfPut logging
    (socket.header? "x-correlation-id" = none ∧
      (socket.body.any fun body => (body.member? "correlationId").any (· matches .null)) = true) ∧
      half.1.status = .internalError ∧
      half.2.journal.logs.filter (·.IsAccess) =
        [App.servedLine .epoch halfPut .ok "anonymous"] := by
  refine ⟨?_, ?_⟩
  · decide +kernel
  · decide +kernel

end Http
end Rbac
