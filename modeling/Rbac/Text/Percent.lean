import Rbac.Text.Digits
import Rbac.Text.Utf8

namespace Rbac.Text.Percent

def hexByte? (byte : UInt8) : Option Nat :=
  hexValue? (Char.ofNat byte.toNat)

def decodeBytes : List UInt8 → List UInt8
  | 37 :: high :: low :: rest =>
    match hexByte? high, hexByte? low with
    | some h, some l => UInt8.ofNat (16 * h + l) :: decodeBytes rest
    | _, _ => 37 :: decodeBytes (high :: low :: rest)
  | byte :: rest => byte :: decodeBytes rest
  | [] => []

def decode (text : String) : String :=
  Utf8.decodeLossy (decodeBytes (Utf8.encode text))

/-- As `decode`, where a `+` stands for a space. -/
def decodeForm (text : String) : String :=
  decode (String.ofList (text.toList.map fun c => if c == '+' then ' ' else c))

/-- The characters that a form's field writes as they are. -/
def isPlain (byte : UInt8) : Bool :=
  let c := Char.ofNat byte.toNat
  byte < 128 && (c.isAlphanum || c == '-' || c == '_' || c == '.' || c == '~')

def upperHex (value : Nat) : Char :=
  (hexDigit value).toUpper

def escape (byte : UInt8) : List Char :=
  ['%', upperHex (byte.toNat / 16), upperHex (byte.toNat % 16)]

/-- A form's field: spaces become `+`, and bytes that are not plain become escapes. -/
def encodeForm (text : String) : String :=
  String.ofList <| (Utf8.encode text).flatMap fun byte =>
    if byte == 32 then ['+']
    else if isPlain byte then [Char.ofNat byte.toNat]
    else escape byte

end Rbac.Text.Percent
