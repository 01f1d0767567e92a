import Rbac.Checked
import Rbac.DatabaseUrl
import Rbac.Http.App
import Rbac.Logging
import Rbac.Pattern.Reader
import Rbac.Settings.Basic
import Rbac.Sql.Connection
import Rbac.Version

namespace Rbac

/-- What happens around serving, in order. -/
inductive Milestone where
  /-- The schema of the database was brought up to date. -/
  | migrated (url : String)
  | poolOpened
  | poolClosed
deriving DecidableEq, Repr

structure Pool where
  conninfo : String
  minSize : Int
  maxSize : Int
  isOpen : Bool := false
deriving DecidableEq, Repr

/-- Why a service is not made. -/
inductive Obstacle where
  | settings (flaws : Flaws)
  | failed (failure : Failure)
  /-- The pattern for permissions is no pattern. -/
  | pattern

abbrev DatabaseServer := Http.Server Sql.Connection

/-- The service between its start and its shutdown. -/
structure Deployment where
  settings : Settings
  app : Http.App Sql.Connection
  server : DatabaseServer
  pool : Pool
  milestones : List Milestone := []

namespace Deployment

def startingLine (settings : Settings) : LogLine :=
  .startup .info s!"Starting {versionText} ({settings.environment.text})"

def anonymousLine (settings : Settings) : LogLine :=
  .startup (if settings.environment = .production then .error else .warning)
    "No Keycloak client secret configured; requests run as anonymous"

/-- The largest size of a pool is not below its smallest. -/
def poolOf (settings : Settings) : Except Failure Pool :=
  if settings.poolMaxSize < settings.poolMinSize then
    .error (.badValue "max_size must be greater or equal than min_size")
  else .ok ⟨settings.databaseUrl, settings.poolMinSize, settings.poolMaxSize, false⟩

def readinessTimeout : String := "2.0"

def pingFailedLine (raised : Sql.Raised) : LogLine :=
  .connection ("Database ping failed: " ++ raised.message)

def readiness : Http.Readiness Sql.Connection := fun connection =>
  match connection.ping (some readinessTimeout) with
  | (.ok reachable, connection) => (reachable, [], connection)
  | (.error raised, connection) => (false, [pingFailedLine raised], connection)

/-- Events are logged, and audited if there is an audit service. -/
def publishers (settings : Settings) : List Publisher :=
  .log :: if settings.auditServiceUrl.isEmpty then []
    else [.audit { baseUrl := settings.auditServiceUrl, name := settings.serviceName }]

/-- An identity provider needs a secret. How it is reached is left open, so it never answers. -/
def identity (settings : Settings) : Option Http.IdentityProvider :=
  if settings.keycloakClientSecret.isEmpty then none else some fun _ => .unavailable ""

def appOf (settings : Settings) (pattern : Pattern) : Http.App Sql.Connection where
  dispatcher := Http.Server.dispatcher pattern Sql.Connection.execute
  readiness := some readiness
  identity := identity settings
  origins := some settings.origins

/-- What is left of the attempt to make a service: log lines, the pool if it was made, and the
service or what stood in its way. -/
structure Attempt where
  logs : List LogLine := []
  pool : Option Pool := none
  result : Except Obstacle Deployment

def create (settings : Settings) (connection : Sql.Connection) (correlations : Supply) : Attempt :=
  match Logging.threshold settings.debug settings.logLevel with
  | .error failure => { result := .error (.failed failure) }
  | .ok _ =>
    let logs := [startingLine settings]
    match poolOf settings with
    | .error failure => { logs, result := .error (.failed failure) }
    | .ok pool =>
      let logs := if (identity settings).isNone then logs ++ [anonymousLine settings] else logs
      match Pattern.read? settings.permissionPattern with
      | none => { logs, pool := some pool, result := .error .pattern }
      | some pattern =>
        let server : DatabaseServer := {
          records := connection, correlations, publishers := publishers settings,
          journal := .ofLines logs }
        { logs, pool := some pool,
          result := .ok { settings, app := appOf settings pattern, server, pool } }

def note (milestone : Milestone) (line : LogLine) (deployment : Deployment) : Deployment :=
  { deployment with
    milestones := deployment.milestones ++ [milestone],
    server := deployment.server.log [line] }

def migrates (settings : Settings) : Bool :=
  settings.migrateOnStartup && !settings.databaseUrl.isEmpty

def migrate (deployment : Deployment) : Deployment :=
  if migrates deployment.settings then
    deployment.note (.migrated (DatabaseUrl.forMigrations deployment.settings.databaseUrl))
      (.migrations "Applying database migrations")
  else deployment

def start (deployment : Deployment) : Deployment :=
  let deployment := deployment.migrate
  { deployment with pool := { deployment.pool with isOpen := true } }.note
    .poolOpened (.pool "Connection pool opened")

def stop (deployment : Deployment) : Deployment :=
  { deployment with pool := { deployment.pool with isOpen := false } }.note
    .poolClosed (.pool "Connection pool closed")

/-- Serves a request as a task of its own, whose context is empty at first. -/
def serve (clock : Clock) (request : Http.Incoming) (deployment : Deployment) :
    Http.Response × Deployment :=
  let (response, server) :=
    deployment.app.serve clock request { deployment.server with context := {} }
  (response, { deployment with server })

def serveAll : List (Clock × Http.Incoming) → Deployment → List Http.Response × Deployment
  | [], deployment => ([], deployment)
  | (clock, request) :: rest, deployment =>
    let (response, deployment) := deployment.serve clock request
    let (responses, deployment) := serveAll rest deployment
    (response :: responses, deployment)

def run (requests : List (Clock × Http.Incoming)) (deployment : Deployment) :
    List Http.Response × Deployment :=
  let (responses, deployment) := serveAll requests deployment.start
  (responses, deployment.stop)

end Deployment
end Rbac
