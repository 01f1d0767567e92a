import Rbac.Number.Integer
import Rbac.Text.Blank
import Rbac.Text.Cased

namespace Rbac.Sql

inductive Revision where
  | base
  | first
deriving DecidableEq, Repr

namespace Revision

def text : Revision → String
  | .base => ""
  | .first => "001"

def head : Revision := .first

/-- Why a text names no revision that can be gone to. -/
inductive Flaw where
  | unknown (name : String)
  /-- So many steps cannot be gone from where the database is. -/
  | tooFew (steps : String) (count : Nat)
  | tooFar
  /-- The database is not above where a downgrade is to end. -/
  | notBelow (text : String)
  /-- A downgrade has to say where it starts. -/
  | noStart
  | severalRanges
  /-- Nothing is named where a revision has to be. -/
  | nowhere
  /-- The base of a branch is nothing to start from. -/
  | branchBase
deriving DecidableEq, Repr

def Flaw.message : Flaw → String
  | .unknown name => s!"Can't locate revision identified by '{name}'"
  | .tooFew steps count => s!"Relative revision {steps} didn't produce {count} migrations"
  | .tooFar => "Walked too far"
  | .notBelow text => s!"Destination {text} is not a valid downgrade target from current head(s)"
  | .noStart => "downgrade with --sql requires <fromrev>:<torev>"
  | .severalRanges => "too many values to unpack (expected 2)"
  | .nowhere => ""
  | .branchBase => "'NoneType' object has no attribute 'revision'"

def named (name : String) : Except Flaw Revision :=
  if name == "base" then .ok .base
  else if name == "head" || name == "heads" then .ok head
  else if name == first.text then .ok .first
  else if name.isEmpty then .error .nowhere
  else .error (.unknown name)

def cutBranch (text : String) : Option String × String :=
  match Text.cutAt? '@' text.toList with
  | some (branch, name) => (some (String.ofList branch), String.ofList name)
  | none => (none, text)

/-- The revision of a text without steps. A branch is named by a revision on it. -/
def located (text : String) : Except Flaw Revision :=
  match cutBranch text with
  | (some branch, name) =>
    if branch.isEmpty || branch == first.text then named name else .error (.unknown branch)
  | (none, name) => named name

/-- Where an upgrade to a text without steps ends. The base is the same on all branches. A negative
number counts down from the head of a branch, and no branch has a head. -/
def listed (text : String) : Except Flaw Revision :=
  let (branch, name) := cutBranch text
  if (Number.Integer.read? 10 name.toList).any (· < 0) then
    if branch.isSome then .ok .base else .error .nowhere
  else if name == "base" then .ok .base
  else located text

/-- Steps up or down. -/
structure Walk where
  branch : Option String
  /-- Where the walk starts, if not where the database is. -/
  start : Option String
  /-- The sign and the digits. -/
  steps : String
  isUp : Bool
  count : Nat
deriving DecidableEq, Repr

def isDigit (c : Char) : Bool :=
  (Text.decimalValue? c).isSome

def isWordChar (c : Char) : Bool :=
  c.isAlphanum || c == '_' || isDigit c || Text.isCased c

/-- Reads steps, perhaps behind a name; what follows the digits is looked over. -/
def readSteps? (branch : Option String) (text : List Char) : Option Walk :=
  let start := text.takeWhile isWordChar
  match text.drop start.length with
  | sign :: rest =>
    let digits := rest.takeWhile isDigit
    if (sign == '+' || sign == '-') && !digits.isEmpty then some {
      branch, steps := String.ofList (sign :: digits), isUp := sign == '+',
      start := if start.isEmpty then none else some (String.ofList start),
      count := Number.Integer.ofDigits 10 (digits.filterMap Text.decimalValue?) }
    else none
  | [] => none

def cuts (before : List Char) : List Char → List (List Char × List Char)
  | [] => []
  | c :: rest =>
    if c == '@' then (before.reverse, rest) :: cuts (c :: before) rest else cuts (c :: before) rest

/-- Reads a walk. Its branch is the shortest there can be, and no branch has a line end in it. -/
def readWalk? (text : String) : Option Walk :=
  let branches := (cuts [] text.toList).filter fun (branch, _) =>
    !branch.isEmpty && !branch.contains '\n'
  (branches.findSome? fun (branch, rest) => readSteps? (some (String.ofList branch)) rest)
    <|> readSteps? none text.toList

/-- Where a walk has come to. Nothing stands both for the state before all revisions, from which a
walk may start, and for having left them. -/
abbrev Place := Option Revision

def placeOf (text : String) : Except Flaw Place := do
  match ← located text with
  | .base => return none
  | .first => return some .first

/-- Goes up. A step to a revision asks whether it is on the branch. -/
def goUp (branch : Option String) : Nat → Place → Except Flaw Place
  | 0, place => .ok place
  | steps + 1, none => do
    let _ ← branch.mapM located
    goUp branch steps (some .first)
  | _ + 1, some .first => .ok none
  | _ + 1, some .base => .error .nowhere

/-- Goes down; from before all revisions one first gets to the newest. -/
def goDown : Nat → Place → Place
  | 0, place => place
  | steps + 1, none => goDown steps (some head)
  | steps + 1, some .first => goDown steps (some .base)
  | _ + 1, some .base => none

def onBranch (branch : Option String) (name : String) : String :=
  branch.elim name fun branch => s!"{branch}@{name}"

def Place.revision : Place → Except Flaw Revision
  | some .first => .ok .first
  | _ => .error .nowhere

def Walk.above (walk : Walk) (current : Revision) : Except Flaw Revision := do
  match walk.start with
  | some start =>
    if walk.isUp && walk.count != 0 then
      (← goUp walk.branch walk.count (← placeOf start)).revision
    else (goDown walk.count (← placeOf (onBranch walk.branch start))).revision
  | none =>
    if walk.isUp && walk.count != 0 then
      if current = .first then let _ ← walk.branch.mapM located
      let place := if current = .first then some .first else none
      match ← goUp walk.branch walk.count place with
      | some revision => return revision
      | none => .error (.tooFew walk.steps walk.count)
    else
      let sign := if walk.isUp || walk.count == 0 then "" else "-"
      .error (.tooFew s!"{sign}{walk.count}" walk.count)

/-- Where a downgrade starts that walks down, and why it may not get where it is to end. -/
def Walk.origin (walk : Walk) (current : Revision) : Except Flaw (Place × Flaw) := do
  match walk.start, walk.branch with
  | some start, branch => return (← placeOf (onBranch branch start), .tooFar)
  | none, branch =>
    let short : Flaw := .tooFew walk.steps walk.count
    match current with
    | .base => .error (if branch.isSome then .nowhere else short)
    | .first =>
      let _ ← branch.mapM located
      return (← placeOf (onBranch branch first.text), short)

def Walk.below (walk : Walk) (current : Revision) : Except Flaw Revision := do
  if walk.isUp || walk.count == 0 then
    match walk.start with
    | none => .error (.tooFew walk.steps walk.count)
    | some start => (← goUp walk.branch walk.count (← placeOf start)).elim (.error .tooFar) .ok
  else
    let (place, flaw) ← walk.origin current
    (goDown walk.count place).elim (.error flaw) .ok

def above (current : Revision) (text : String) : Except Flaw Revision :=
  (readWalk? text).elim (listed text) (·.above current)

/-- Where a downgrade to a text ends. A branch changes nothing. -/
def below (current : Revision) (text : String) : Except Flaw Revision :=
  let name := (text.toList.reverse.takeWhile (· != '@')).reverse
  (readWalk? text).elim (named (String.ofList name)) (·.below current)

def started (text : String) : Except Flaw Revision :=
  if text == "base" then .ok .base
  else do
    match ← located text with
    | .base => .error .branchBase
    | .first => return .first

end Revision
end Rbac.Sql
