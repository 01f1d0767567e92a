import Rbac.Failure
import Rbac.Settings.Basic
import Rbac.Text.Lines
import Rbac.Text.Upper

namespace Rbac.Logging

/-- The names of levels; the first name of a level is the one that is written. -/
def levels : List (String × Int) := [
  ("CRITICAL", 50), ("FATAL", 50), ("ERROR", 40), ("WARNING", 30), ("WARN", 30), ("INFO", 20),
  ("DEBUG", 10), ("NOTSET", 0)]

def levelText (level : Int) : String :=
  match levels.find? (·.2 == level) with
  | some (name, _) => name
  | none => s!"Level {level}"

def debugLevel : Int := 10
def defaultLevel : Int := 20

def takenNames : List (String × Failure) := [
  ("BASIC_FORMAT", .badValue "Unknown level: '%(levelname)s:%(name)s:%(message)s'"),
  ("_STYLES", .wrongType <| "Level not an integer or a valid string: \x7b"
    ++ "'%': (<class 'logging.PercentStyle'>, '%(levelname)s:%(name)s:%(message)s'), "
    ++ "'\x7b': (<class 'logging.StrFormatStyle'>, "
    ++ "'\x7blevelname\x7d:\x7bname\x7d:\x7bmessage\x7d'), "
    ++ "'$': (<class 'logging.StringTemplateStyle'>, "
    ++ "'$\x7blevelname\x7d:$\x7bname\x7d:$\x7bmessage\x7d')\x7d")]

/-- The level from which on lines are written. A name that is unknown stands for the default. -/
def threshold (debug : Bool) (name : String) : Except Failure Int :=
  let name := Text.upper name
  if debug then .ok debugLevel
  else match takenNames.find? (·.1 == name) with
    | some (_, failure) => .error failure
    | none => .ok (((levels.find? (·.1 == name)).map (·.2)).getD defaultLevel)

structure Entry where
  logger : String
  level : Int
  message : String
  correlation : Option String

/-- A line of level 0 is never written. -/
def isWritten (threshold : Int) (entry : Entry) : Bool :=
  0 < entry.level && threshold ≤ entry.level

def rootName : String := "root"

def line (entry : Entry) : String :=
  let correlation := (entry.correlation.filter (!·.isEmpty)).getD "-"
  let logger := if entry.logger.isEmpty then rootName else entry.logger
  s!" - {logger} - {levelText entry.level} - [{correlation}] {entry.message}"

def timeWidth : Nat := 23

def output (threshold : Int) (entries : List Entry) : String :=
  let time := String.ofList (List.replicate timeWidth ' ')
  String.join ((entries.filter (isWritten threshold)).map fun entry => s!"{time}{line entry}\n")

/-- The lines of the output, each without its first columns, where the times are. -/
def lines (threshold : Int) (entries : List Entry) : List String :=
  (Text.lines (output threshold entries)).map fun line => (line.drop timeWidth).toString

end Rbac.Logging
