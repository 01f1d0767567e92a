import Rbac.Text.Blank
import Rbac.Text.Digits

namespace Rbac.Number.Integer

/-- White space around a number: without the information separators, which are not read over. -/
def isPadding (c : Char) : Bool :=
  Text.isSpaceChar c

def digit? (base : Nat) (c : Char) : Option Nat :=
  match Text.decimalValue? c with
  | some value => if value < base then some value else none
  | none => (Text.hexValue? c).bind fun value => if value < base then some value else none

def digits? (base : Nat) : List Char → Option (List Nat)
  | [] => none
  | [c] => (digit? base c).map ([·])
  | c :: '_' :: rest => do
    let value ← digit? base c
    return value :: (← digits? base rest)
  | c :: rest => do
    let value ← digit? base c
    return value :: (← digits? base rest)

def ofDigits (base : Nat) (digits : List Nat) : Nat :=
  digits.foldl (fun value digit => value * base + digit) 0

/-- A `0x` in front of hexadecimal digits, which an underscore may follow. Its zero may be of any
script. -/
def dropBaseMark (base : Nat) (text : List Char) : List Char :=
  if base == 16 then
    match text with
    | zero :: mark :: rest =>
      if Text.decimalValue? zero == some 0 && (mark == 'x' || mark == 'X') then
        match rest with
        | '_' :: digits => digits
        | digits => digits
      else text
    | _ => text
  else text

/-- The most decimal digits a number may have; hexadecimal ones are not limited. -/
def maxDecimalDigits : Nat := 4300

def magnitude? (base : Nat) (text : List Char) : Option Nat := do
  let digits ← digits? base (dropBaseMark base text)
  if base == 10 && maxDecimalDigits < digits.length then none
  else return ofDigits base digits

def read? (base : Nat) (text : List Char) : Option Int :=
  match Text.trimBy isPadding text with
  | '+' :: rest => (magnitude? base rest).map Int.ofNat
  | '-' :: rest => (magnitude? base rest).map fun value => -(Int.ofNat value)
  | rest => (magnitude? base rest).map Int.ofNat

end Rbac.Number.Integer
