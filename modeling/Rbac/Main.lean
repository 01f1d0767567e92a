import Rbac.CommandLine.Service
import Rbac.Sql.Migration

namespace Rbac.Main

def environment : IO (List (String × String)) := do
  let names :=
    Settings.names.flatMap fun name => [name, String.ofList (name.toList.map Char.toUpper)]
  let given ← names.mapM fun name => return (← IO.getEnv name).map (name, ·)
  return given.filterMap id

def variablesFile : IO String :=
  try IO.FS.readFile ".env" catch _ => pure ""

def carryOut : CommandLine.Task → IO UInt32
  | .migrate url => do
    IO.println s!"-- {url}"
    (Sql.Migration.script .base Sql.Revision.head).forM IO.println
    return 0
  | .serve host port => do
    IO.eprintln s!"no listener for {host}:{port}"
    return 1

/-- A text that is no string is printed in quotes, with its escapes. -/
def printed (text : Text) : String :=
  text.string?.getD (Text.quoted text)

def explain : Obstacle → List String
  | .settings flaws => flaws.map fun (name, message) => s!"{name}: {message}"
  | .failed failure => [printed failure.message]
  | .pattern => ["the pattern for permissions is no pattern"]

end Rbac.Main

def main (args : List String) : IO UInt32 := do
  let report := Rbac.CommandLine.run args (← Rbac.Main.environment) (← Rbac.Main.variablesFile)
  IO.print report.stdout
  report.errorText.forM IO.eprintln
  match report.exit with
  | .error obstacle =>
    (Rbac.Main.explain obstacle).forM IO.eprintln
    return 1
  | .ok code =>
    let codes ← report.tasks.mapM Rbac.Main.carryOut
    return codes.foldl max code.toUInt32
