import Rbac.Benchmark.Call
import Rbac.Benchmark.Output
import Rbac.Benchmark.Summary
import Rbac.CommandLine.Options
import Rbac.Supply

namespace Rbac.Benchmark

open Number (Binary)
open CommandLine (Switch Command Parsed Value)

def rolesSwitch : Switch := ⟨["--num-roles"], .integer⟩
def permissionsSwitch : Switch := ⟨["--perms-per-role"], .integer⟩
def checksSwitch : Switch := ⟨["--num-checks"], .integer⟩
def outputSwitch : Switch := ⟨["--output"], .text⟩

def command : Command where
  name := "bench_check.py"
  switches := [rolesSwitch, permissionsSwitch, checksSwitch, outputSwitch]
  help := String.join ([
    "usage: bench_check.py [-h] [--num-roles NUM_ROLES]",
    "                      [--perms-per-role PERMS_PER_ROLE]",
    "                      [--num-checks NUM_CHECKS] [--output OUTPUT]",
    "",
    "Benchmark permission checks",
    "",
    "options:",
    "  -h, --help            show this help message and exit",
    "  --num-roles NUM_ROLES",
    "                        Roles assigned to the user",
    "  --perms-per-role PERMS_PER_ROLE",
    "                        Permissions per role",
    "  --num-checks NUM_CHECKS",
    "                        Number of check requests",
    "  --output OUTPUT       Output file path"].map (· ++ "\n"))

/-- What is to be done. An option that was given without its value leaves nothing. -/
structure Plan where
  roles : Option Int
  permissions : Option Int
  checks : Option Int
  output : Option String

namespace Plan

def integer (parsed : Parsed) (switch : Switch) (default : Int) : Option Int :=
  match parsed.value switch with
  | .integer value => some value
  | .nothing => none
  | _ => some default

def ofParsed (parsed : Parsed) : Plan where
  roles := integer parsed rolesSwitch 20
  permissions := integer parsed permissionsSwitch 10
  checks := integer parsed checksSwitch 500
  output := match parsed.value outputSwitch with
    | .text path => some path
    | .nothing => none
    | _ => some "/results/bench_check.txt"

def shown (number : Option Int) : String :=
  number.elim "[]" toString

end Plan

/-- A clock that is read: each reading first moves it on by the next of its ticks, which start over
after the last. -/
structure Clock where
  ticks : List Int
  readings : Nat := 0
  counter : Int := 0

namespace Clock

def rate : Nat := 1024

def advance (clock : Clock) : Clock :=
  let tick := clock.ticks.getD (clock.readings % clock.ticks.length) 0
  { clock with readings := clock.readings + 1, counter := clock.counter + tick }

def seconds (clock : Clock) : Binary :=
  .ofFraction (clock.counter < 0) clock.counter.natAbs rate

end Clock

/-- How the service and the identity provider answer. -/
structure Answers where
  tokenStatus : Nat
  token : String
  roleStatus : Nat
  /-- The id of each role that is created, by its number, counted from zero. -/
  roleId : Nat → String
  assignmentStatus : Nat
  /-- The answers to checks, which start over after the last. -/
  checks : List (Nat × Bool)

def isSuccess (status : Nat) : Bool :=
  200 ≤ status && status < 300

/-- Why a run breaks off. -/
inductive Break where
  | badStatus
  | noRoles
  | noTime
  | badUrl (flaw : Url.Flaw)
  | unknownKind (url : String)
  | tooLate
  | noCount
  | noPath
  | brokenPath
deriving DecidableEq, Repr

def Break.message? : Break → Option String
  | .badStatus => none
  | .noRoles => some "integer modulo by zero"
  | .noTime => some "float division by zero"
  | .badUrl flaw => some flaw.message
  | .unknownKind url => some (Url.unknownKind url)
  | .tooLate => some "integer division result too large for a float"
  | .noCount => some "'list' object cannot be interpreted as an integer"
  | .noPath => some "expected str, bytes or os.PathLike object, not list"
  | .brokenPath => some "embedded null byte"

/-- What has been said, called and written so far, the newest first, and the clock. -/
structure Progress where
  clock : Clock
  said : List String := []
  calls : List Call := []
  files : List (String × String) := []

/-- A step of a run: it adds to what has been done so far, and may break off. -/
abbrev Step := ExceptT Break (StateM Progress)

namespace Step

def say (line : String) : Step Unit :=
  modify fun progress => { progress with said := line :: progress.said }

def time : Step Binary := do
  modify fun progress => { progress with clock := progress.clock.advance }
  match (← get).clock.seconds with
  | .infinity _ => throw .tooLate
  | seconds => return seconds

def url {α : Type} (read : Except Url.Flaw α) : Step α :=
  match read with
  | .ok value => return value
  | .error flaw => throw (.badUrl flaw)

/-- Calls. A URL without a scheme is only found out afterwards. -/
def send (call : Except Url.Flaw Call) : Step Unit := do
  let call ← url call
  modify fun progress => { progress with calls := call :: progress.calls }
  if !Url.namesScheme call.url then throw (.unknownKind call.url)

def need (call : Except Url.Flaw Call) (status : Nat) : Step Unit := do
  send call
  if !isSuccess status then throw .badStatus

def numbers (count : Option Int) : Step (List Nat) :=
  match count with
  | none => throw .noCount
  | some count => return List.range count.toNat

end Step

def seed (subject : Subject) (permissions : Option Int) (answers : Answers) (number : Nat) :
    Step Unit := do
  let permissions ← Step.numbers permissions
  Step.need (Call.role subject permissions.length number) answers.roleStatus
  Step.need (Call.assignment subject (answers.roleId number)) answers.assignmentStatus

/-- The action of a check: in turns one that is granted and one that nobody holds. -/
def checkedAction (roles : Int) (number : Nat) : Except Break String :=
  if number % 2 == 1 then .ok Call.missingAction
  else if roles = 0 then .error .noRoles
  else .ok (Call.action ((number : Int).fmod roles) 0)

def tally (answer : Nat × Bool) (latency : Binary) (measurement : Measurement) : Measurement :=
  if answer.1 = 200 then
    { measurement with
      latencies := latency :: measurement.latencies,
      granted := measurement.granted + answer.2.toNat }
  else { measurement with errors := measurement.errors + 1 }

def measure (subject : Subject) (roles : Int) (answers : Answers) (measurement : Measurement)
    (number : Nat) : Step Measurement := do
  let action ← checkedAction roles number
  let before ← Step.time
  Step.send (Call.check subject action)
  let latency := (← Step.time).sub before
  let answer := answers.checks.getD (number % answers.checks.length) (200, true)
  return tally answer latency measurement

def write (output : Option String) (summary : String) : Step Unit := do
  match output with
  | none => throw .noPath
  | some path =>
    if Output.isBroken path then throw .brokenPath
    modify fun progress => { progress with files := Output.files path summary ++ progress.files }
    Step.say (Output.report path)

def conclude (plan : Plan) (measurement : Measurement) : Step Nat := do
  if measurement.latencies.isEmpty then
    Step.say "No successful checks."
    return 1
  match Summary.rate? measurement with
  | none => throw .noTime
  | some rate =>
    let summary :=
      Summary.text (Plan.shown plan.roles) (Plan.shown plan.permissions) measurement rate
    Step.say summary
    write plan.output summary
    return 0

def variableOr (environment : List (String × String)) (name default : String) : String :=
  ((environment.find? (·.1 == name)).map (·.2)).getD default

def credentials? (environment : List (String × String)) : Option Credentials :=
  let secret := variableOr environment "KEYCLOAK_CLIENT_SECRET" ""
  if secret.isEmpty then none
  else some {
    providerUrl := variableOr environment "KEYCLOAK_URL" "http://localhost:8080",
    realm := variableOr environment "KEYCLOAK_REALM" "platform",
    clientId := variableOr environment "KEYCLOAK_CLIENT_ID" "access-control",
    clientSecret := secret,
    username := variableOr environment "BENCH_USER" "testuser",
    password := variableOr environment "BENCH_PASSWORD" "testpass" }

/-- Asks for a token, if need be; what is answered is the authorization of all further calls. -/
def authorize (environment : List (String × String)) (answers : Answers) :
    Step (Option String) := do
  match credentials? environment with
  | none => return none
  | some credentials =>
    Step.say "Getting token..."
    Step.need (Call.token credentials) answers.tokenStatus
    return some s!"Bearer {answers.token}"

def subject (base : Url) (authorization : Option String) : Draw Subject := do
  return ⟨base, authorization, ← .fresh, ← .fresh, ← .fresh⟩

def runPlan (plan : Plan) (environment : List (String × String)) (answers : Answers)
    (supply : Supply) : Step Nat := do
  let authorization ← authorize environment answers
  let roles := Plan.shown plan.roles
  let permissions := Plan.shown plan.permissions
  Step.say s!"Seeding {roles} roles x {permissions} permissions..."
  let address := variableOr environment "API_URL" "http://localhost:8000"
  let base ← Step.url (Url.readBase (Text.dropTrailing '/' address))
  let (subject, _) := (subject base authorization).run supply
  (← Step.numbers plan.roles).forM (seed subject plan.permissions answers)
  let checks := Plan.shown plan.checks
  Step.say s!"Running {checks} permission checks..."
  let start ← Step.time
  let measurement ← (← Step.numbers plan.checks).foldlM
    (measure subject (plan.roles.getD 0) answers) {}
  let total := (← Step.time).sub start
  conclude plan { measurement with total }

/-- What a run comes to. -/
structure Result where
  exit : Except Break Nat
  stdout : String
  calls : List Call := []
  files : List (String × String) := []

def Result.ofProgress (exit : Except Break Nat) (progress : Progress) : Result where
  exit
  stdout := String.join (progress.said.reverse.map (· ++ "\n"))
  calls := progress.calls.reverse
  files := progress.files

def run (args : List String) (environment : List (String × String)) (answers : Answers)
    (clock : Clock) (supply : Supply) : Result :=
  match command.read args with
  | .error stop => { exit := .ok stop.exitCode, stdout := stop.stdout }
  | .ok parsed =>
    let (exit, progress) := (runPlan (.ofParsed parsed) environment answers supply).run { clock }
    .ofProgress exit progress

end Rbac.Benchmark
