import Rbac.Text.Blank
import Rbac.Url.Basic

namespace Rbac.Url.Query

abbrev Fields := List (String × List String)

def text (pairs : List (String × String)) : String :=
  "&".intercalate (pairs.map fun (name, value) =>
    Text.Percent.encodeForm name ++ "=" ++ Text.Percent.encodeForm value)

def add (fields : Fields) (pair : String × String) : Fields :=
  if fields.any (·.1 == pair.1) then
    fields.map fun (name, values) => (name, if name == pair.1 then values ++ [pair.2] else values)
  else fields ++ [(pair.1, [pair.2])]

/-- A name and a value; without `=` the value is empty. -/
def pairOf (text : List Char) : String × String :=
  let (name, value) := (Text.cutAt? '=' text).getD (text, [])
  (Text.Percent.decodeForm (String.ofList name), Text.Percent.decodeForm (String.ofList value))

def read (text : String) : Fields :=
  let pieces := (Text.splitOn '&' text.toList).filter fun piece => !piece.isEmpty
  (pieces.map pairOf).foldl add []

def give (fields : Fields) (pair : String × String) : Fields :=
  if fields.any (·.1 == pair.1) then
    fields.map fun (name, values) => (name, if name == pair.1 then [pair.2] else values)
  else fields ++ [(pair.1, [pair.2])]

def pairs (fields : Fields) : List (String × String) :=
  fields.flatMap fun (name, values) => values.map (name, ·)

def giveTo (given : List (String × String)) (url : Url) : Except Flaw Url :=
  let fields := given.foldl give (read (url.query.getD ""))
  url.withPath url.path (some (text (pairs fields)))

end Rbac.Url.Query
