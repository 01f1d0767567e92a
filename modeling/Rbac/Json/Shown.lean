import Rbac.Json.Basic
import Rbac.Number.Shortest
import Rbac.Text.Quoted

namespace Rbac.Json

def Number.binary : Number → Rbac.Number.Binary
  | .integer value => .ofInt value
  | .decimal negative digits exponent => .ofDecimal negative digits exponent
  | .infinity negative => .infinity negative
  | .notANumber => .notANumber

def Number.shown : Number → String
  | .integer value => toString value
  | value => value.binary.text

mutual

def nested : Json → String
  | .null => "None"
  | .bool value => if value then "True" else "False"
  | .num value => value.shown
  | .str value => Text.quoted value
  | .arr items => "[" ++ ", ".intercalate (nestedItems items) ++ "]"
  | .obj members => "\x7b" ++ ", ".intercalate (nestedMembers members) ++ "\x7d"

def nestedItems : List Json → List String
  | [] => []
  | item :: items => item.nested :: nestedItems items

def nestedMembers : List (Text × Json) → List String
  | [] => []
  | (name, value) :: members => s!"{Text.quoted name}: {value.nested}" :: nestedMembers members

end

def shown : Json → Text
  | .str value => value
  | value => value.nested

/-- The message that some values make: the only one as it is shown, several in round brackets. -/
def message : List Json → Text
  | [] => ""
  | [value] => value.shown
  | values => "(" ++ ", ".intercalate (values.map nested) ++ ")"

def kind : Json → String
  | .null => "NoneType"
  | .bool _ => "bool"
  | .num (.integer _) => "int"
  | .num _ => "float"
  | .str _ => "str"
  | .arr _ => "list"
  | .obj _ => "dict"

end Rbac.Json
