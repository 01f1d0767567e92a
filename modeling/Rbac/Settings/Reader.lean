import Rbac.Checked
import Rbac.Number.Loose
import Rbac.Settings.Basic
import Rbac.Settings.EnvFile
import Rbac.Text.Case

namespace Rbac.Settings

/-- A variable by its name in lower case, the last one of that name. -/
def last? {α : Type} (name : String) (given : List (String × α)) : Option α :=
  (given.reverse.find? (Text.lower ·.1 == name)).map (·.2)

/-- The variables that settings are read from. -/
structure Sources where
  environment : List (String × String)
  file : EnvFile.Variables

namespace Sources

def given? (sources : Sources) (name : String) : Option String :=
  (last? name sources.environment).or (last? name sources.file).join

def read {α : Type} (sources : Sources) (name : String) (default : α)
    (reader : String → Except String α) : Checked α :=
  match (sources.given? name).map reader with
  | none => .ok default
  | some (.ok value) => .ok value
  | some (.error message) => .flawed [(name, message)]

def text (sources : Sources) (name default : String) : Checked String :=
  sources.read name default .ok

/-- The variables of the file that are no settings; an empty one does no harm. -/
def strangers (sources : Sources) : List String :=
  (sources.file.map (Text.lower ·.1)).eraseDups.filter fun name =>
    !names.contains name && ((last? name sources.file).join.any (!·.isEmpty))

def strangerFlaws (sources : Sources) : Flaws :=
  sources.strangers.map fun name => (name, "Extra inputs are not permitted")

end Sources

def integer (text : String) : Except String Int :=
  match Number.Loose.integer? text with
  | .ok value => .ok value
  | .error .malformed =>
    .error "Input should be a valid integer, unable to parse string as an integer"
  | .error .tooLong => .error "Unable to parse input string as an integer, exceeded maximum size"

def poolSize (text : String) : Except String Int := do
  let size ← integer text
  if size < 1 then .error "Input should be greater than or equal to 1" else .ok size

def duration (text : String) : Except String Number.Binary :=
  match Number.Loose.decimal? text with
  | none => .error "Input should be a valid number, unable to parse string as a number"
  | some value =>
    if value.isPositive then .ok value else .error "Input should be greater than 0"

def trueWords : List String := ["true", "1", "yes", "on", "t", "y"]
def falseWords : List String := ["false", "0", "no", "off", "f", "n"]

def switch (text : String) : Except String Bool :=
  let word := Text.lowerAscii text
  if trueWords.contains word then .ok true
  else if falseWords.contains word then .ok false
  else .error "Input should be a valid boolean, unable to interpret input"

def environmentName (text : String) : Except String Environment :=
  match [Environment.development, .staging, .production].find? (·.text == text) with
  | some environment => .ok environment
  | none => .error "Input should be 'development', 'staging' or 'production'"

def ofSources (sources : Sources) : Checked Settings :=
  let default : Settings := {}
  Settings.mk
    <$> sources.text "database_url" default.databaseUrl
    <*> sources.read "pool_min_size" default.poolMinSize poolSize
    <*> sources.read "pool_max_size" default.poolMaxSize poolSize
    <*> sources.read "run_migrations_on_startup" default.migrateOnStartup switch
    <*> sources.text "keycloak_url" default.keycloakUrl
    <*> sources.text "keycloak_realm" default.keycloakRealm
    <*> sources.text "keycloak_client_id" default.keycloakClientId
    <*> sources.text "keycloak_client_secret" default.keycloakClientSecret
    <*> sources.text "audit_service_url" default.auditServiceUrl
    <*> sources.read "audit_timeout_seconds" default.auditTimeout duration
    <*> sources.text "service_name" default.serviceName
    <*> sources.text "permission_pattern" default.permissionPattern
    <*> sources.text "cors_origins" default.corsOrigins
    <*> sources.text "host" default.host
    <*> sources.read "port" default.port integer
    <*> sources.read "environment" default.environment environmentName
    <*> sources.text "log_level" default.logLevel
    <*> sources.read "debug" default.debug switch

def strangersChecked (sources : Sources) : Checked Unit :=
  match sources.strangerFlaws with
  | [] => .ok ()
  | flaws => .flawed flaws

/-- Reads the settings from the environment and the text of a file, which is empty if there is
none. -/
def read (environment : List (String × String)) (file : String) : Except Flaws Settings :=
  let sources : Sources := ⟨environment, EnvFile.read environment file⟩
  ((fun settings _ => settings) <$> ofSources sources <*> strangersChecked sources).toExcept

end Rbac.Settings
