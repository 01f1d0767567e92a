import Rbac.Json.Basic
import Rbac.Text.Digits

namespace Rbac.Json.Reader

def isGap (c : Char) : Bool :=
  c == ' ' || c == '\t' || c == '\n' || c == '\r'

def skipGap (text : List Char) : List Char :=
  text.dropWhile isGap

def takeWord? (word text : List Char) : Option (List Char) :=
  if word.isPrefixOf text then some (text.drop word.length) else none

def simpleEscape? (c : Char) : Option Nat :=
  match c with
  | '"' => some 34
  | '\\' => some 92
  | '/' => some 47
  | 'b' => some 8
  | 'f' => some 12
  | 'n' => some 10
  | 'r' => some 13
  | 't' => some 9
  | _ => none

def unit? (a b c d : Char) : Option Nat := do
  let values ← [a, b, c, d].mapM Text.hexValue?
  return values.foldl (fun unit value => unit * 16 + value) 0

/-- The code points of a string, and what follows its closing quote. Halves of surrogate pairs stay
as they are written. -/
def points? : List Char → Option (List Nat × List Char)
  | [] => none
  | '"' :: rest => some ([], rest)
  | '\\' :: 'u' :: a :: b :: c :: d :: rest => do
    let unit ← unit? a b c d
    let (points, rest) ← points? rest
    return (unit :: points, rest)
  | '\\' :: mark :: rest => do
    let point ← simpleEscape? mark
    let (points, rest) ← points? rest
    return (point :: points, rest)
  | c :: rest =>
    if c.toNat < 0x20 then none
    else do
      let (points, rest) ← points? rest
      return (c.toNat :: points, rest)

/-- Joins each high half with the low half right after it. -/
def joinPairs : List Nat → List Nat
  | high :: low :: rest =>
    if Text.Surrogate.isHigh high && Text.Surrogate.isLow low then
      Text.Surrogate.join high low :: joinPairs rest
    else high :: joinPairs (low :: rest)
  | points => points

def string? (text : List Char) : Option (Text × List Char) :=
  (points? text).map fun (points, rest) => (⟨(joinPairs points).map .ofValue⟩, rest)

def digitsValue (digits : List Char) : Nat :=
  digits.foldl (fun value c => value * 10 + (c.toNat - 48)) 0

/-- The digits of the whole part: a zero alone, or digits that do not start with one. -/
def wholeDigits (text : List Char) : List Char × List Char :=
  match text with
  | '0' :: rest => (['0'], rest)
  | _ => (text.takeWhile Char.isDigit, text.dropWhile Char.isDigit)

def fractionDigits (text : List Char) : List Char × List Char :=
  match text with
  | '.' :: rest =>
    let digits := rest.takeWhile Char.isDigit
    if digits.isEmpty then ([], text) else (digits, rest.dropWhile Char.isDigit)
  | _ => ([], text)

def exponent? (text : List Char) : Option (Int × List Char) :=
  match text with
  | mark :: rest =>
    if mark == 'e' || mark == 'E' then
      let (negative, rest) := match rest with
        | '+' :: digits => (false, digits)
        | '-' :: digits => (true, digits)
        | _ => (false, rest)
      let digits := rest.takeWhile Char.isDigit
      if digits.isEmpty then none
      else
        let size : Int := digitsValue digits
        some (if negative then -size else size, rest.dropWhile Char.isDigit)
    else none
  | [] => none

def magnitude? (negative : Bool) (text : List Char) : Option (Number × List Char) :=
  let (whole, rest) := wholeDigits text
  if whole.isEmpty then none
  else
    let (fraction, afterFraction) := fractionDigits rest
    match exponent? afterFraction with
    | some (power, rest) =>
      some (.decimal negative (digitsValue (whole ++ fraction)) (power - fraction.length), rest)
    | none =>
      if fraction.isEmpty then
        if 4300 < whole.length then none
        else
          let size : Int := digitsValue whole
          some (.integer (if negative then -size else size), rest)
      else some
        (.decimal negative (digitsValue (whole ++ fraction)) (-fraction.length), afterFraction)

def number? (text : List Char) : Option (Number × List Char) :=
  match text with
  | '-' :: rest =>
    match takeWord? "Infinity".toList rest with
    | some rest => some (.infinity true, rest)
    | none => magnitude? true rest
  | _ => magnitude? false text

def word? (text : List Char) : Option (Json × List Char) :=
  [("null", Json.null), ("true", .bool true), ("false", .bool false), ("NaN", .num .notANumber),
    ("Infinity", .num (.infinity false))].findSome? fun (word, value) =>
      (takeWord? word.toList text).map (value, ·)

/-- Why a text is not read. -/
inductive Flaw where
  | malformed
  /-- Arrays and objects are nested further than is read. -/
  | tooDeep
deriving DecidableEq, Repr

def maxDepth : Nat := 950

def need {α : Type} (read : Option α) : Except Flaw α :=
  read.elim (.error .malformed) .ok

mutual

/-- A value at the front of the text. The fuel bounds how many values it may hold; the depth says
how many arrays and objects it may still be nested in. -/
def value : Nat → Nat → List Char → Except Flaw (Json × List Char)
  | 0, _, _ => .error .malformed
  | fuel + 1, depth, text =>
    match text with
    | '"' :: rest => need ((string? rest).map fun (text, rest) => (.str text, rest))
    | '[' :: rest =>
      if depth == 0 then .error .tooDeep
      else match skipGap rest with
        | ']' :: rest => .ok (.arr [], rest)
        | rest => (items fuel (depth - 1) rest).map fun (items, rest) => (.arr items, rest)
    | c :: rest =>
      if c.toNat == 0x7B then
        if depth == 0 then .error .tooDeep
        else match skipGap rest with
          | [] => .error .malformed
          | c :: rest =>
            if c.toNat == 0x7D then .ok (.obj [], rest)
            else (members fuel (depth - 1) (c :: rest)).map fun (members, rest) =>
              (ofMembers members, rest)
      else match word? text with
        | some read => .ok read
        | none => need ((number? text).map fun (number, rest) => (.num number, rest))
    | [] => .error .malformed

/-- The items of an array up to its closing bracket; there is at least one. -/
def items : Nat → Nat → List Char → Except Flaw (List Json × List Char)
  | 0, _, _ => .error .malformed
  | fuel + 1, depth, text => do
    let (item, rest) ← value fuel depth text
    match skipGap rest with
    | ']' :: rest => return ([item], rest)
    | ',' :: rest =>
      let (items, rest) ← items fuel depth (skipGap rest)
      return (item :: items, rest)
    | _ => .error .malformed

def members : Nat → Nat → List Char → Except Flaw (List (Text × Json) × List Char)
  | 0, _, _ => .error .malformed
  | fuel + 1, depth, text => do
    let rest ← need (takeWord? ['"'] text)
    let (name, rest) ← need (string? rest)
    let rest ← need (takeWord? [':'] (skipGap rest))
    let (value, rest) ← value fuel depth (skipGap rest)
    match skipGap rest with
    | ',' :: rest =>
      let (members, rest) ← members fuel depth (skipGap rest)
      return ((name, value) :: members, rest)
    | c :: rest => if c.toNat == 0x7D then return ([(name, value)], rest) else .error .malformed
    | [] => .error .malformed

end

def document (text : List Char) : Except Flaw Json := do
  let (value, rest) ← value (2 * text.length + 2) maxDepth (skipGap text)
  if (skipGap rest).isEmpty then return value else .error .malformed

end Reader

def read (text : String) : Except Reader.Flaw Json :=
  Reader.document text.toList

end Rbac.Json
