import Rbac.Json.Basic
import Rbac.Text.Blank
import Rbac.Text.Percent

namespace Rbac.Http.Form

/-- A field's name and value, decoded; nothing for an empty field. -/
def field? (text : List Char) : Option (String × String) :=
  let (name, value) := (Text.cutAt? '=' text).getD (text, [])
  if name.isEmpty && value.isEmpty then none
  else some
    (Text.Percent.decodeForm (String.ofList name), Text.Percent.decodeForm (String.ofList value))

def fields (text : String) : List (String × String) :=
  (Text.splitOn '&' text.toList).filterMap field?

def collect (members : List (Text × Json)) (field : String × String) : List (Text × Json) :=
  let name := Text.ofString field.1
  let value := Json.str field.2
  match (members.find? (·.1 == name)).map (·.2) with
  | none => members ++ [(name, value)]
  | some (.arr values) => Json.put name (.arr (values ++ [value])) members
  | some first => Json.put name (.arr [first, value]) members

def read (text : String) : Json :=
  .obj ((fields text).foldl collect [])

end Rbac.Http.Form
