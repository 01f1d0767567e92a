import Rbac.CommandLine.Options
import Rbac.Deployment
import Rbac.Settings.Reader
import Rbac.Text.Lines

namespace Rbac.CommandLine

inductive Task where
  | serve (host : String) (port : Int)
  /-- Bring the schema of the database up to date. -/
  | migrate (url : String)
deriving DecidableEq, Repr

def hostSwitch : Switch := ⟨["--host"], .text⟩
def portSwitch : Switch := ⟨["--port"], .integer⟩

def lines (texts : List String) : String :=
  String.join (texts.map (· ++ "\n"))

def serveCommand : Command where
  name := "accesscontrol serve"
  switches := [hostSwitch, portSwitch]
  help := lines [
    "usage: accesscontrol serve [-h] [--host HOST] [--port PORT]",
    "",
    "options:",
    "  -h, --help   show this help message and exit",
    "  --host HOST  Bind address (default: settings.host)",
    "  --port PORT  Bind port (default: settings.port)"]

def migrateCommand : Command where
  name := "accesscontrol migrate"
  switches := []
  help := lines [
    "usage: accesscontrol migrate [-h]",
    "",
    "options:",
    "  -h, --help  show this help message and exit"]

def versionCommand : Command where
  name := "accesscontrol version"
  switches := []
  help := lines [
    "usage: accesscontrol version [-h]",
    "",
    "options:",
    "  -h, --help  show this help message and exit"]

def service : Program where
  command := {
    name := "accesscontrol"
    switches := []
    help := lines [
      "usage: accesscontrol [-h] \x7bserve,migrate,version\x7d ...",
      "",
      "Role-based access control service",
      "",
      "positional arguments:",
      "  \x7bserve,migrate,version\x7d",
      "    serve               Run the HTTP API with uvicorn",
      "    migrate             Apply database migrations (alembic upgrade head)",
      "    version             Print the version",
      "",
      "options:",
      "  -h, --help            show this help message and exit"] }
  commands := [("serve", serveCommand), ("migrate", migrateCommand), ("version", versionCommand)]

/-- What a run of the program comes to. -/
structure Report where
  exit : Except Obstacle Nat
  tasks : List Task := []
  stdout : String := ""
  errorText : Option String := none

namespace Report

def done (task : Task) : Report := { exit := .ok 0, tasks := [task] }

def blocked (obstacle : Obstacle) : Report := { exit := .error obstacle }

/-- The last line of what is reported of a mistake, which may quote several. -/
def errorLine? (report : Report) : Option String :=
  report.errorText.bind fun text => (Text.lines (text ++ "\n")).getLast?

def stopped (stop : Stop) : Report :=
  { exit := .ok stop.exitCode, stdout := stop.stdout, errorText := stop.errorText? }

end Report

/-- An empty host and port zero count as not given. -/
def serve (parsed : Parsed) (settings : Settings) : Task :=
  let host := match parsed.value hostSwitch with
    | .text host => if host.isEmpty then settings.host else host
    | _ => settings.host
  let port := match parsed.value portSwitch with
    | .integer port => if port = 0 then settings.port else port
    | _ => settings.port
  .serve host port

/-- Logging is set up before the schema is touched. -/
def migrate (settings : Settings) : Except Obstacle Task := do
  let _ ← (Logging.threshold settings.debug settings.logLevel).mapError .failed
  return .migrate (DatabaseUrl.forMigrations settings.databaseUrl)

def execute (name : String) (parsed : Parsed) (settings : Except Flaws Settings) : Report :=
  if name = "version" then { exit := .ok 0, stdout := lines [versionText] }
  else
    match settings with
    | .error flaws => .blocked (.settings flaws)
    | .ok settings =>
      if name = "serve" then .done (serve parsed settings)
      else match migrate settings with
        | .ok task => .done task
        | .error obstacle => .blocked obstacle

def run (args : List String) (environment : List (String × String)) (file : String) : Report :=
  match service.read args with
  | .error stop => .stopped stop
  | .ok (name, parsed) => execute name parsed (Settings.read environment file)

end Rbac.CommandLine
