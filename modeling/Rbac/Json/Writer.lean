import Rbac.Json.Basic
import Rbac.Text.Digits

namespace Rbac.Json

def unitEscape (unit : Nat) : List Char :=
  '\\' :: 'u' :: Text.hexDigits 4 unit

def writeChar (c : Char) : List Char :=
  if c == '"' || c == '\\' then ['\\', c]
  else if c == '\n' then ['\\', 'n']
  else if c == '\r' then ['\\', 'r']
  else if c == '\t' then ['\\', 't']
  else if c.toNat == 8 then ['\\', 'b']
  else if c.toNat == 12 then ['\\', 'f']
  else if 0x20 ≤ c.toNat && c.toNat < 0x7F then [c]
  else if c.toNat < 0x10000 then unitEscape c.toNat
  else
    let (high, low) := Text.Surrogate.split c.toNat
    unitEscape high ++ unitEscape low

def writePoint (point : CodePoint) : List Char :=
  match point with
  | .char c => writeChar c
  | .half _ => unitEscape point.value

def writeStr (text : Text) : List Char :=
  '"' :: text.points.flatMap writePoint ++ ['"']

def Number.chars : Number → List Char
  | .integer value => (toString value).toList
  | .decimal negative digits exponent =>
    (if negative then "-" else "").toList ++ (toString digits).toList
      ++ 'e' :: (toString exponent).toList
  | .infinity negative => (if negative then "-Infinity" else "Infinity").toList
  | .notANumber => "NaN".toList

mutual

def chars : Json → List Char
  | .null => "null".toList
  | .bool value => (if value then "true" else "false").toList
  | .num value => value.chars
  | .str value => writeStr value
  | .arr [] => ['[', ']']
  | .arr (item :: items) => '[' :: item.chars ++ itemsTail items
  | .obj [] => [Char.ofNat 0x7B, Char.ofNat 0x7D]
  | .obj (member :: members) =>
    Char.ofNat 0x7B :: writeStr member.1 ++ ':' :: ' ' :: member.2.chars ++ membersTail members

def itemsTail : List Json → List Char
  | [] => [']']
  | item :: items => ',' :: ' ' :: item.chars ++ itemsTail items

def membersTail : List (Text × Json) → List Char
  | [] => [Char.ofNat 0x7D]
  | (name, value) :: members =>
    ',' :: ' ' :: writeStr name ++ ':' :: ' ' :: value.chars ++ membersTail members

end

def text (value : Json) : String :=
  String.ofList value.chars

end Rbac.Json
