import Rbac.Number.Loose
import Rbac.Text.Blank
import Rbac.Text.Case

namespace Rbac.Http

open Number (Binary)

/-- A media type or a range of them. -/
structure MediaRange where
  main : String
  sub : String
  parameters : List (String × String) := []
  quality : Binary := .ofInt 1
deriving DecidableEq, Repr

namespace MediaRange

/-- Cuts a text at each semicolon that no quotes enclose. A quote behind a backslash does not
count. -/
def cutParameters (inQuotes escaped : Bool) : List Char → List (List Char)
  | [] => [[]]
  | c :: rest =>
    if c == ';' && !inQuotes then [] :: cutParameters false false rest
    else
      let inQuotes := if c == '"' && !escaped then !inQuotes else inQuotes
      match cutParameters inQuotes (c == '\\') rest with
      | part :: parts => (c :: part) :: parts
      | [] => [[c]]

def unescape : List Char → List Char
  | '\\' :: '\\' :: rest => '\\' :: unescape rest
  | '\\' :: '"' :: rest => '"' :: unescape rest
  | c :: rest => c :: unescape rest
  | [] => []

def unquote (value : List Char) : List Char :=
  if 2 ≤ value.length && value.head? == some '"' && value.getLast? == some '"' then
    unescape (value.drop 1).dropLast
  else value

def trim (text : List Char) : String :=
  String.ofList (Text.trimBy Text.isBlankChar text)

def parameter? (text : List Char) : Option (String × String) :=
  (Text.cutAt? '=' text).map fun (name, value) =>
    (Text.lower (trim name), String.ofList (unquote (trim value).toList))

/-- A value before the first semicolon, and its parameters by name, of which the last one of a name
counts. -/
def split (text : String) : String × List (String × String) :=
  match cutParameters false false text.toList with
  | [] => ("", [])
  | first :: rest =>
    let parameters := (rest.filterMap parameter?).foldl (fun known (name, value) =>
      known.filter (·.1 != name) ++ [(name, value)]) []
    (trim first, parameters)

def qualityName : String := "q"

/-- A quality lies between zero and one. -/
def quality? (text : String) : Option Binary :=
  (Number.Loose.decimal? text).filter fun value =>
    Binary.zero.le value && value.le (.ofInt 1)

/-- Reads one range. A lone `*` stands for any type. -/
def read? (text : String) : Option MediaRange := do
  let (essence, parameters) := split text
  let (main, sub) ← Text.cutAt? '/' (if essence == "*" then "*/*" else essence).toList
  let quality ← match parameters.find? (·.1 == qualityName) with
    | some (_, value) => quality? value
    | none => some (.ofInt 1)
  return ⟨trim main, trim sub, parameters.filter (·.1 != qualityName), quality⟩

def readList? (text : String) : Option (List MediaRange) :=
  (Text.splitOn ',' text.toList).mapM fun part => read? (String.ofList part)

/-- How well a type fits a range: whether its main and its sub type are named, and whether the range
has no parameters. Nothing if it does not fit. -/
def fit? (range : MediaRange) (main sub : String) : Option (Nat × Nat × Nat) :=
  let part (named given : String) : Option Nat :=
    if named == "*" then some 0 else if named == given then some 1 else none
  do return (← part range.main main, ← part range.sub sub, range.parameters.isEmpty.toNat)

/-- The better one of two ranges that a type is in: the more specific one, else the one of the
higher quality. -/
def better (a b : (Nat × Nat × Nat) × Binary) : (Nat × Nat × Nat) × Binary :=
  let key (fit : Nat × Nat × Nat) : Nat := fit.1 * 4 + fit.2.1 * 2 + fit.2.2
  if key a.1 < key b.1 then b
  else if key b.1 < key a.1 then a
  else if a.2.le b.2 then b else a

/-- The quality of a type among ranges; zero if it is in none. -/
def qualityOf (ranges : List MediaRange) (main sub : String) : Binary :=
  let fits := ranges.filterMap fun range => (range.fit? main sub).map (·, range.quality)
  match fits with
  | [] => .zero
  | first :: rest => (rest.foldl better first).2

/-- The first one of the types whose quality is highest, if it is above zero. -/
def best? (ranges : List MediaRange) (types : List (String × String)) : Option (String × String) :=
  let rated := types.map fun type => (type, qualityOf ranges type.1 type.2)
  let best := rated.foldl (fun best rated =>
    match best with
    | some (_, quality) => if rated.2.le quality then best else some rated
    | none => some rated) (none : Option ((String × String) × Binary))
  (best.filter (·.2.isPositive)).map (·.1)

end MediaRange
end Rbac.Http
