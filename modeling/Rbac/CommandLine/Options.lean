import Rbac.Number.Integer
import Rbac.Text.Quoted

namespace Rbac.CommandLine

/-- What an option takes. One that takes nothing asks for help. -/
inductive Takes where
  | nothing
  | text
  | integer
deriving DecidableEq, Repr

structure Switch where
  names : List String
  takes : Takes
deriving DecidableEq, Repr

def helpSwitch : Switch := ⟨["-h", "--help"], .nothing⟩

structure Command where
  name : String
  /-- The options besides the one that asks for help. -/
  switches : List Switch
  help : String

def Command.named (command : Command) : List (String × Switch) :=
  (helpSwitch :: command.switches).flatMap fun switch => switch.names.map (·, switch)

inductive Mistake where
  | ambiguous (text : String) (candidates : List String)
  | valueMissing (switch : Switch)
  | valueIgnored (switch : Switch) (value : String)
  | noInteger (switch : Switch) (value : String)
  | noCommand
  | unknownCommand (name : String) (known : List String)
  | unrecognized (words : List String)
deriving DecidableEq, Repr

def Switch.label (switch : Switch) : String :=
  "/".intercalate switch.names

def Mistake.message : Mistake → String
  | .ambiguous text candidates =>
    let names := ", ".intercalate candidates
    s!"ambiguous option: {text} could match {names}"
  | .valueMissing switch => s!"argument {switch.label}: expected one argument"
  | .valueIgnored switch value =>
    s!"argument {switch.label}: ignored explicit argument {Text.quoted value}"
  | .noInteger switch value =>
    s!"argument {switch.label}: invalid int value: {Text.quoted value}"
  | .noCommand => "the following arguments are required: command"
  | .unknownCommand name known =>
    let choices := ", ".intercalate (known.map fun (word : String) => Text.quoted word)
    s!"argument command: invalid choice: {Text.quoted name} (choose from {choices})"
  | .unrecognized words =>
    let listed := " ".intercalate words
    s!"unrecognized arguments: {listed}"

/-- What a word is. -/
inductive Word where
  | plain
  | separator
  /-- It names an option, perhaps with a value behind `=`. -/
  | switch (switch : Switch) (name : String) (value : Option String)
  /-- It looks like an option and is none. -/
  | unknown
deriving DecidableEq, Repr

def isDigit (c : Char) : Bool :=
  (Text.decimalValue? c).isSome

/-- A negative number stands for itself. A newline at its end is looked over. -/
def isNegativeNumber (text : List Char) : Bool :=
  match text with
  | '-' :: rest =>
    let number := if rest.getLast? == some '\n' then rest.dropLast else rest
    let isWhole (digits : List Char) : Bool := !digits.isEmpty && digits.all isDigit
    isWhole number || match Text.cutAt? '.' number with
      | some (whole, fraction) => whole.all isDigit && isWhole fraction
      | none => false
  | _ => false

def cutValue (text : String) : String × Option String :=
  match Text.cutAt? '=' text.toList with
  | some (name, value) => (String.ofList name, some (String.ofList value))
  | none => (text, none)

namespace Command

/-- The options that a shortened word may mean. Behind a single dash, a value follows the letter of
an option at once. -/
def candidates (command : Command) (text : String) : List (String × Switch × Option String) :=
  if text.startsWith "--" then
    let (start, value) := cutValue text
    (command.named.filter (·.1.startsWith start)).map fun (name, switch) => (name, switch, value)
  else
    command.named.filterMap fun (name, switch) =>
      if name.toList == text.toList.take 2 then
        some (name, switch, some (String.ofList (text.toList.drop 2)))
      else if name.startsWith text then some (name, switch, none)
      else none

def find? (command : Command) (name : String) : Option Switch :=
  (command.named.find? (·.1 == name)).map (·.2)

def readDashed (command : Command) (text : String) : Except Mistake Word :=
  let (name, value) := cutValue text
  match command.find? name with
  | some switch => .ok (.switch switch name value)
  | none =>
    match command.candidates text with
    | [] =>
      if isNegativeNumber text.toList || text.toList.contains ' ' then .ok .plain
      else .ok .unknown
    | [(name, switch, value)] => .ok (.switch switch name value)
    | several => .error (.ambiguous text (several.map (·.1)))

def readWord (command : Command) (text : String) : Except Mistake Word :=
  match command.find? text with
  | some switch => .ok (.switch switch text none)
  | none =>
    if text.startsWith "-" && text.length != 1 then command.readDashed text else .ok .plain

def readWords (command : Command) : List String → Except Mistake (List (String × Word))
  | [] => .ok []
  | text :: rest =>
    if text == "--" then .ok ((text, .separator) :: rest.map (·, .plain))
    else do return (text, ← command.readWord text) :: (← command.readWords rest)

end Command

/-- Why reading stops early. -/
inductive Ending where
  | help
  | mistake (mistake : Mistake)
deriving DecidableEq, Repr

inductive Value where
  | unset
  /-- The option is given, but a separator stands where its value should. -/
  | nothing
  | text (value : String)
  | integer (value : Int)
deriving DecidableEq, Repr

/-- The values given to options, by the options, and the words left over. -/
structure Parsed where
  values : List (Switch × Value) := []
  extras : List String := []

/-- The value that an option has in the end: the last one given. -/
def Parsed.value (parsed : Parsed) (switch : Switch) : Value :=
  ((parsed.values.reverse.find? (·.1 == switch)).map (·.2)).getD .unset

def Switch.read (switch : Switch) (text : String) : Except Ending Value :=
  if text == "--" then .ok .nothing
  else match switch.takes with
    | .integer =>
      match Number.Integer.read? 10 text.toList with
      | some value => .ok (.integer value)
      | none => .error (.mistake (.noInteger switch text))
    | _ => .ok (.text text)

/-- Letters behind a single dash name one option each. -/
def cluster : List Char → Ending
  | [] => .help
  | c :: rest =>
    if helpSwitch.names.contains (String.ofList ['-', c]) then cluster rest
    else .mistake (.valueIgnored helpSwitch (String.ofList (c :: rest)))

def endingAt (switch : Switch) (name : String) : Option String → Ending
  | none => .help
  | some value =>
    if name.startsWith "--" || value.isEmpty then .mistake (.valueIgnored switch value)
    else cluster value.toList

/-- Takes the options with their values and leaves the other words over. -/
def consume : List (String × Word) → Except Ending Parsed
  | [] => .ok {}
  | [(text, word)] =>
    match word with
    | .switch switch name value =>
      match switch.takes, value with
      | .nothing, value => .error (endingAt switch name value)
      | _, none => .error (.mistake (.valueMissing switch))
      | _, some value => do return ⟨[(switch, ← switch.read value)], []⟩
    | _ => .ok ⟨[], [text]⟩
  | (text, word) :: (next, nextWord) :: rest =>
    match word with
    | .switch switch name value =>
      match switch.takes, value with
      | .nothing, value => .error (endingAt switch name value)
      | _, some value => do
        let value ← switch.read value
        let parsed ← consume ((next, nextWord) :: rest)
        return { parsed with values := (switch, value) :: parsed.values }
      | _, none =>
        if nextWord = .plain then do
          let value ← switch.read next
          let parsed ← consume rest
          return { parsed with values := (switch, value) :: parsed.values }
        else .error (.mistake (.valueMissing switch))
    | _ => do
      let parsed ← consume ((next, nextWord) :: rest)
      return { parsed with extras := text :: parsed.extras }

def Command.parse (command : Command) (args : List String) : Except Ending Parsed := do
  consume (← (command.readWords args).mapError .mistake)

/-- Where reading stopped and why. -/
structure Stop where
  command : Command
  ending : Ending

namespace Stop

def exitCode (stop : Stop) : Nat :=
  match stop.ending with
  | .help => 0
  | .mistake _ => 2

def stdout (stop : Stop) : String :=
  match stop.ending with
  | .help => stop.command.help
  | .mistake _ => ""

def errorText? (stop : Stop) : Option String :=
  match stop.ending with
  | .help => none
  | .mistake mistake => some s!"{stop.command.name}: error: {mistake.message}"

end Stop

def Command.read (command : Command) (args : List String) : Except Stop Parsed :=
  match command.parse args with
  | .error ending => .error ⟨command, ending⟩
  | .ok parsed =>
    if parsed.extras.isEmpty then .ok parsed
    else .error ⟨command, .mistake (.unrecognized parsed.extras)⟩

/-- A program whose first plain word chooses one of its commands. -/
structure Program where
  command : Command
  commands : List (String × Command)

namespace Program

def choose : List (String × Word) → Except Ending (List String × Option (String × List String))
  | [] => .ok ([], none)
  | (text, word) :: rest =>
    match word with
    | .switch switch name value => .error (endingAt switch name value)
    | .plain => .ok ([], some (text, rest.map (·.1)))
    | .separator =>
      if rest.isEmpty then .ok ([text], none) else .ok ([], some (text, rest.map (·.1)))
    | .unknown => do
      let (skipped, chosen) ← choose rest
      return (text :: skipped, chosen)

/-- Reads a command line: the name of the chosen command and its options. Words that no command
knows are only reported once the command itself has been read. -/
def read (program : Program) (args : List String) : Except Stop (String × Parsed) := do
  let stop (ending : Ending) : Stop := ⟨program.command, ending⟩
  let words ← (program.command.readWords args).mapError (stop ∘ .mistake)
  match ← (choose words).mapError stop with
  | (_, none) => .error (stop (.mistake .noCommand))
  | (skipped, some (name, rest)) =>
    match program.commands.find? (·.1 == name) with
    | none =>
      .error (stop (.mistake (.unknownCommand name (program.commands.map (·.1)))))
    | some (_, command) =>
      let parsed ← (command.parse rest).mapError fun ending => ⟨command, ending⟩
      let extras := skipped ++ parsed.extras
      if extras.isEmpty then .ok (name, parsed)
      else .error (stop (.mistake (.unrecognized extras)))

end Program
end Rbac.CommandLine
