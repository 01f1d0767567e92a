import Rbac.Text.Case
import Rbac.Text.Blank
import Rbac.Url.Escape
import Rbac.Url.Label
import Rbac.Url.Punycode

namespace Rbac.Url.Host

/-- Why a text is no host. -/
inductive Flaw where
  | address4
  | address6
  | name
deriving DecidableEq, Repr

def isDigit (c : Char) : Bool := '0' ≤ c && c ≤ '9'

def numberOf (digits : List Char) : Nat :=
  digits.foldl (fun value c => value * 10 + (c.toNat - 48)) 0

/-- A part of an address of version 4: up to 255, without a zero in front. -/
def isOctet (part : List Char) : Bool :=
  !part.isEmpty && part.all isDigit && part.length ≤ 3 && numberOf part ≤ 255
    && (part.length == 1 || part.head? != some '0')

def isAddress4 (text : List Char) : Bool :=
  let parts := Text.splitOn '.' text
  parts.length == 4 && parts.all isOctet

/-- Whether digits stand in four groups, with one character of any kind between two of them; such a
text is meant as an address. -/
def looksLikeAddress4 (groups : Nat) : List Char → Bool
  | [] => false
  | c :: rest =>
    isDigit c && match groups with
      | 0 => rest.all isDigit
      | groups + 1 =>
        looksLikeAddress4 (groups + 1) rest || looksLikeAddress4 groups (rest.drop 1)
termination_by text => text.length
decreasing_by all_goals grind

def isGroup (part : List Char) : Bool :=
  !part.isEmpty && part.length ≤ 4 && part.all (Text.hexValue? · |>.isSome)

/-- The groups of an address of version 6; an address of version 4 at its end counts as two. -/
def groups? (text : List Char) : Option (List (List Char)) :=
  let parts := Text.splitOn ':' text
  match parts.getLast? with
  | some last =>
    if last.contains '.' then
      if isAddress4 last then some (parts.dropLast ++ [['0'], ['0']]) else none
    else some parts
  | none => none

/-- Whether groups make an address. Two colons in a row, once, stand for as many zeros as lack. -/
def areGroups (parts : List (List Char)) : Bool :=
  let inner := (parts.drop 1).dropLast
  match inner.countP List.isEmpty with
  | 0 => parts.length == 8 && parts.all isGroup
  | 1 =>
    let before := parts.takeWhile (!·.isEmpty)
    let after := (parts.reverse.takeWhile (!·.isEmpty)).reverse
    let isGap (place : Nat) : Bool := (parts.getD place ['x']).isEmpty
    let first := if isGap 0 then isGap 1 else true
    let last := if isGap (parts.length - 1) then isGap (parts.length - 2) else true
    first && last && before.all isGroup && after.all isGroup && before.length + after.length < 8
  | _ => false

/-- An address of version 6 may name its zone behind a `%`. -/
def isAddress6 (text : List Char) : Bool :=
  let (address, zone) := (Text.cutAt? '%' text).getD (text, ['0'])
  !zone.isEmpty && !zone.contains '%' && match groups? address with
    | some parts => 3 ≤ parts.length && parts.length ≤ 9 && areGroups parts
    | none => false

def endsLabel (c : Char) : Bool :=
  c == '.' || c.toNat == 0x3002 || c.toNat == 0xFF0E || c.toNat == 0xFF61

def maxLabel : Nat := 63
def maxName : Nat := 253

def encodedMark : List Char := "xn--".toList

def isInCase (c : Char) : Bool :=
  Label.isCherokee c || Text.lower (String.ofList [c]) == String.ofList [c]

/-- Whether an encoded label, without its mark, is one that may be a label. -/
def isEncoded (encoded : List Char) : Bool :=
  !encoded.isEmpty && encoded.getLast? != some '-'
    && (Punycode.decode? encoded).any fun label => label.all isInCase && Label.isLabel label

/-- A label in ASCII. One that is ASCII already stays; it may be an encoded one. -/
def label? (label : List Char) : Option (List Char) :=
  let (isGood, encoded) :=
    if label.any (128 ≤ ·.toNat) then (Label.isLabel label, encodedMark ++ Punycode.encode label)
    else if encodedMark.isPrefixOf label then (isEncoded (label.drop encodedMark.length), label)
    else (Label.isLabel label, label)
  if isGood && encoded.length ≤ maxLabel then some encoded else none

/-- A name of labels of any script, in ASCII. A point at its end stays. -/
def encode? (name : List Char) : Option (List Char) := do
  let labels := Text.splitOn '.' (name.map fun c => if endsLabel c then '.' else c)
  let ended := labels.getLast? == some []
  let encoded ← (if ended then labels.dropLast else labels).mapM label?
  let text := List.intercalate ['.'] encoded
  if encoded.isEmpty || maxName < text.length then none
  else return if ended then text ++ ['.'] else text

/-- A host, read and in its normal form. An address of version 6 stands in brackets, which are
dropped. -/
def read (text : String) : Except Flaw String :=
  let chars := text.toList
  if looksLikeAddress4 3 chars then
    if isAddress4 chars then .ok text else .error .address4
  else if chars.head? == some '[' && 1 < chars.length && chars.getLast? == some ']' then
    let address := (chars.drop 1).dropLast
    if isAddress6 address then .ok (String.ofList address) else .error .address6
  else if chars.all (·.toNat < 128) then .ok (Escape.part Escape.inHost (Text.lowerAscii text))
  else match encode? (Text.lower text).toList with
    | some name => .ok (String.ofList name)
    | none => .error .name

end Rbac.Url.Host
