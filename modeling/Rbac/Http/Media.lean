import Rbac.Http.Form
import Rbac.Http.MediaRange
import Rbac.Http.Message
import Rbac.Http.Problem
import Rbac.Json.Reader

namespace Rbac.Http.Media

inductive Kind where
  | json
  | multipart
  | form
deriving DecidableEq, Repr

def kinds : List ((String × String) × Kind) := [
  (("application", "json"), .json), (("multipart", "form-data"), .multipart),
  (("application", "x-www-form-urlencoded"), .form)]

def kind? (type : String) : Option Kind := do
  if type.isEmpty then return .json
  let best ← MediaRange.best? (← MediaRange.readList? type) (kinds.map (·.1))
  kinds.lookup best

def readJson (body : List UInt8) : Except Problem Json :=
  if body.isEmpty then .error .emptyBody
  else match (Text.Utf8.decode? body).map Json.read with
    | some (.ok value) => .ok value
    | some (.error .tooDeep) => .error .unreadable
    | some (.error .malformed) | none => .error .malformedBody

/-- A form is ASCII; the first other byte is reported with its position. -/
def readForm (body : List UInt8) : Except Problem Json :=
  match body.findIdx? (128 ≤ ·) with
  | some position => .error (.malformedForm (body.getD position 0).toNat position)
  | none => .ok (Form.read (String.ofList (body.map fun byte => Char.ofNat byte.toNat)))

def maxBoundary : Nat := 70

def typeName : String := "Content-Type"

/-- Finds the boundary of a form in parts. The form is no object: its parts are not read. -/
def readMultipart (type : String) : Except Problem Json :=
  match (MediaRange.split type).2.lookup "boundary" with
  | none => .error (.badHeader typeName s!"No boundary specifier found in {Text.quoted type}")
  | some boundary =>
    if boundary.isEmpty || maxBoundary < boundary.length then
      .error (.badHeader typeName "The boundary parameter must consist of 1 to 70 characters")
    else .ok .null

def badLength (reason : String) : Problem :=
  .badHeader "Content-Length" s!"The value of the header must be a {reason}."

def checkLength (request : Incoming) : Except Problem Unit :=
  let length := (request.header? Incoming.lengthHeader).getD ""
  if length.isEmpty then .ok ()
  else match Number.Integer.read? 10 length.toList with
    | none => .error (badLength "number")
    | some value => if value < 0 then .error (badLength "positive number") else .ok ()

def read (request : Incoming) : Except Problem Json := do
  let type := (request.header? (Text.lowerAscii typeName)).getD ""
  match kind? type with
  | none => .error (.unsupportedMedia type)
  | some kind =>
    checkLength request
    match kind with
    | .json => readJson request.body
    | .form => readForm request.body
    | .multipart => readMultipart type

end Rbac.Http.Media
