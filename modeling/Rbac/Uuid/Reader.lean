import Rbac.Number.Integer
import Rbac.Uuid.Basic

namespace Rbac.Uuid

def ofHex? (digits : List Char) : Option Uuid := do
  let values ← digits.mapM Text.hexValue?
  ofNat? (Number.Integer.ofDigits 16 values)

def readSimple? (text : List Char) : Option Uuid :=
  if text.length == 32 then ofHex? text else none

def readHyphenated? (text : List Char) : Option Uuid :=
  let digits := text.filter (· != '-')
  if digits.length == 32 && group digits == text then ofHex? digits else none

def urnMark : List Char := "urn:uuid:".toList

def readPlainChars? (text : List Char) : Option Uuid :=
  match text with
  | '{' :: rest => if rest.getLast? == some '}' then readHyphenated? rest.dropLast else none
  | _ =>
    if urnMark.isPrefixOf text then readHyphenated? (text.drop urnMark.length)
    else (readSimple? text).or (readHyphenated? text)

def readPlain? (text : String) : Option Uuid :=
  readPlainChars? text.toList

/-- Drops every occurrence of a pattern, from the left and without overlap; `skip` characters of an
occurrence are still to be dropped. -/
def removeAll (pattern : List Char) (skip : Nat) : List Char → List Char
  | [] => []
  | c :: rest =>
    match skip with
    | n + 1 => removeAll pattern n rest
    | 0 =>
      if pattern.isPrefixOf (c :: rest) then removeAll pattern (pattern.length - 1) rest
      else c :: removeAll pattern 0 rest

def isBrace (c : Char) : Bool :=
  c.toNat == 0x7B || c.toNat == 0x7D

/-- Every `urn:` goes, then every `uuid:`, then braces at both ends, then every hyphen. -/
def undecorated (text : List Char) : List Char :=
  let bare := removeAll "uuid:".toList 0 (removeAll "urn:".toList 0 text)
  (Text.trimBy isBrace bare).filter (· != '-')

def readLenientChars? (text : List Char) : Option Uuid :=
  let rest := undecorated text
  if rest.length == 32 then
    match Number.Integer.read? 16 rest with
    | some (.ofNat value) => ofNat? value
    | _ => none
  else none

def readLenient? (text : String) : Option Uuid :=
  readLenientChars? text.toList

end Rbac.Uuid
