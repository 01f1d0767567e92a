import Rbac.Context
import Rbac.Http.Call
import Rbac.Http.Cors
import Rbac.Http.Identity
import Rbac.Publisher
import Rbac.Service

namespace Rbac.Http

/-- What serving works on: the records, and what surrounds a request that is served. -/
structure Server (ω : Type) where
  records : ω
  context : Context := {}
  /-- The correlation ids for requests that bring none. -/
  correlations : Supply
  publishers : List Publisher := []
  published : List Event := []
  journal : Journal := {}

namespace Server

variable {ω : Type}

def log (lines : List LogLine) (server : Server ω) : Server ω :=
  { server with journal := server.journal ++ .ofLines lines }

def execute (execution : Execution ω) : Execution (Server ω) := fun useCase server =>
  let (result, records) := execution useCase server.records
  (result, { server with records })

/-- Events are published in the context of the request that is being served. -/
def publish : Publish (Server ω) := fun events server =>
  let (result, journal, publishers) := Publisher.publishAll server.context events server.publishers
  (result, { server with
    publishers, journal := server.journal ++ journal, published := server.published ++ events })

def dispatcher (pattern : Pattern) (execution : Execution ω) (clock : Clock) :
    Dispatcher Request RequestType (Server ω) Answer :=
  Service.dispatcher pattern (execute execution) (some publish) clock

end Server

abbrev Readiness (ω : Type) := ω → Bool × List LogLine × ω

structure App (ω : Type) where
  dispatcher : Clock → Dispatcher Request RequestType (Server ω) Answer
  readiness : Option (Readiness ω) := none
  identity : Option IdentityProvider := none
  /-- The origins that responses are shared with, if they are shared at all. -/
  origins : Option (List String) := none

namespace App

variable {ω : Type}

def correlationHeader : String := Text.lowerAscii Cors.correlationHeader

/-- The correlation id that a request brings, cut to its limit; a blank one counts as none. -/
def correlation? (request : Incoming) : Option String :=
  let brought := Text.trim ((request.header? correlationHeader).getD "")
  if brought.isEmpty then none
  else some (String.ofList (brought.toList.take AuditEntry.correlationLimit))

def correlate (request : Incoming) (server : Server ω) : String × Server ω :=
  let (id, correlations) := match correlation? request with
    | some id => (id, server.correlations)
    | none => (server.correlations.next.text, server.correlations.advance)
  (id, { server with correlations, context := { server.context with correlation := some id } })

def notReadyLine : LogLine :=
  .health "Readiness check failed: database unreachable"

/-- A service without a check of its records is always ready. -/
def checkReadiness (app : App ω) (server : Server ω) : Response × Server ω :=
  match app.readiness with
  | none => (Call.ready, server)
  | some check =>
    let (isReady, lines, records) := check server.records
    let server := { server with records }.log lines
    if isReady then (Call.ready, server) else (Call.notReady, server.log [notReadyLine])

def run (app : App ω) (clock : Clock) (call : Call) (server : Server ω) :
    Except Problem Response × Server ω :=
  match call with
  | .health => (.ok Call.healthy, server)
  | .readiness =>
    let (response, server) := app.checkReadiness server
    (.ok response, server)
  | .options allowed => (.ok (Call.allows allowed), server)
  | .use request =>
    match (app.dispatcher clock).dispatch request server with
    | (.ok outcome, server) => (.ok (Call.response request outcome.value), server)
    | (.error failure, server) => (.error (.failed failure), server)

def answer (app : App ω) (clock : Clock) (request : Incoming) (server : Server ω) :
    Except Problem Response × Server ω :=
  match Call.read request with
  | .ok call => app.run clock call server
  | .error problem => (.error problem, server)

/-- Finds out who makes a request and answers it. Asking for the allowed methods takes no user. The
user is handed on for the log. -/
def identify (app : App ω) (clock : Clock) (request : Incoming) (server : Server ω) :
    Option Json × Except Problem Response × Server ω :=
  if request.method = Call.optionsMethod then
    match app.origins with
    | some _ => (none, .ok Cors.preflight, server)
    | none => (none, app.answer clock request server)
  else
    let (user, lines) := Identity.authenticate app.identity request
    let server := server.log lines
    match user with
    | .error problem => (none, .error problem, server)
    | .ok user =>
      let context := { server.context with actor := Identity.actor user }
      (some user, app.answer clock request { server with context })

def settle (request : Incoming) (correlation : Option String) (result : Except Problem Response)
    (server : Server ω) : Response × Server ω :=
  match result with
  | .ok response => (response, server)
  | .error problem =>
    (problem.response request.path correlation, server.log (problem.logLine? request).toList)

def finish (app : App ω) (request : Incoming) (correlation : Option String) (response : Response) :
    Response :=
  let shared := (app.origins.map fun origins => Cors.headers origins request).getD []
  let headers := shared ++ (correlation.map (correlationHeader, ·)).toList
  let response :=
    headers.foldl (fun response (name, value) => response.setHeader name value) response
  if request.method = "HEAD" then { response with body := none } else response

def accessLine (clock : Clock) (request : Incoming) (response : Response) (user : Option Json) :
    LogLine :=
  let elapsed := s!"{clock.elapsed / 10}.{clock.elapsed % 10}"
  let line := s!"{request.method} {request.path} -> {response.status.text} ({elapsed} ms) user="
  .access (.ofString line ++ user.elim (.ofString "-") (·.shown))

/-- Whether what comes of a request can be encoded. The path and the correlation id that a problem
tells came over the wire and are whole; other texts may come from a payload. -/
def isEncodable : Except Problem Response → Bool
  | .ok response => !response.body.any (·.hasHalf)
  | .error problem => !(problem.body "" none).hasHalf

/-- Sends a response. One whose body cannot be encoded is sent without it, as trouble inside the
service. -/
def send (request : Incoming) (encodable : Bool) (response : Response) (server : Server ω) :
    Response × Server ω :=
  if encodable then (response, server)
  else
    ({ response.setHeader "content-type" Response.problemType with
        status := .internalError, body := none },
      server.log [Problem.internalLine request])

/-- Finishes the response to a request, logs it and sends it. To a request without a correlation id
of its own, a problem tells the one that the context holds from an earlier request. -/
def reply (app : App ω) (clock : Clock) (request : Incoming) (correlation : Option String)
    (user : Option Json) (result : Except Problem Response) (server : Server ω) :
    Response × Server ω :=
  let told := correlation.or server.context.correlation
  let (response, server) := settle request told result server
  let response := app.finish request correlation response
  send request (isEncodable result) response (server.log [accessLine clock request response user])

/-- What has this method is no request; it is refused at once. -/
def socketMethod : String := "WEBSOCKET"

def serve (app : App ω) (clock : Clock) (request : Incoming) (server : Server ω) :
    Response × Server ω :=
  if request.method = socketMethod then app.reply clock request none none (.error .noRequest) server
  else
    let (correlation, server) := correlate request server
    let (user, result, server) := app.identify clock request server
    app.reply clock request (some correlation) user result server

end App
end Rbac.Http
