import Rbac.Number.Binary
import Rbac.Text.Basic

namespace Rbac

namespace Json

/-- A number: an integer exactly, any other by its digits and the power of ten they are scaled by.
-/
inductive Number where
  | integer (value : Int)
  | decimal (negative : Bool) (digits : Nat) (exponent : Int)
  | infinity (negative : Bool)
  | notANumber
deriving DecidableEq, Repr

end Json

inductive Json where
  | null
  | bool (value : Bool)
  | num (value : Json.Number)
  | str (value : Text)
  | arr (items : List Json)
  | obj (members : List (Text × Json))

namespace Json

instance : Inhabited Json := ⟨.null⟩

/-- Puts a member under a name: in place of the one that has the name, else at the end. -/
def put (name : Text) (value : Json) : List (Text × Json) → List (Text × Json)
  | [] => [(name, value)]
  | member :: rest =>
    if member.1 = name then (name, value) :: rest else member :: put name value rest

/-- The members of an object; of a name that comes more than once the last value counts. -/
def ofMembers (members : List (Text × Json)) : Json :=
  .obj (members.foldl (fun known (name, value) => put name value known) [])

def member? (name : Text) : Json → Option Json
  | .obj members => (members.find? (·.1 == name)).map (·.2)
  | _ => none

def str? : Json → Option Text
  | .str value => some value
  | _ => none

def bool? : Json → Option Bool
  | .bool value => some value
  | _ => none

def int? : Json → Option Int
  | .num (.integer value) => some value
  | _ => none

def nat? (value : Json) : Option Nat :=
  value.int?.map Int.toNat

def arr? : Json → Option (List Json)
  | .arr items => some items
  | _ => none

def isNull : Json → Bool
  | .null => true
  | _ => false

def ofInt (value : Int) : Json :=
  .num (.integer value)

def ofNat (value : Nat) : Json :=
  .num (.integer value)

def ofText? (text : Option Text) : Json :=
  text.elim .null .str

def ofTexts (texts : List Text) : Json :=
  .arr (texts.map .str)

def ofStrings (texts : List String) : Json :=
  ofTexts (texts.map .ofString)

/-- A value counts as false when it is null, false, zero or empty. -/
def isTruthy : Json → Bool
  | .null => false
  | .bool value => value
  | .num (.integer value) => value != 0
  | .num (.decimal negative digits exponent) =>
    !(Rbac.Number.Binary.ofDecimal negative digits exponent).isZero
  | .num _ => true
  | .str value => !value.isEmpty
  | .arr items => !items.isEmpty
  | .obj members => !members.isEmpty

mutual

def hasHalf : Json → Bool
  | .str value => value.hasHalf
  | .arr items => anyHalf items
  | .obj members => anyMemberHalf members
  | _ => false

def anyHalf : List Json → Bool
  | [] => false
  | item :: items => item.hasHalf || anyHalf items

def anyMemberHalf : List (Text × Json) → Bool
  | [] => false
  | (name, value) :: members =>
    name.hasHalf || value.hasHalf || anyMemberHalf members

end

end Json
end Rbac
