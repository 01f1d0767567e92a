import Rbac.Number.Binary
import Rbac.Text.Blank
import Rbac.Text.Digits

namespace Rbac.Number.Loose

def isDigit (c : Char) : Bool :=
  c.isDigit

def natOf (digits : List Char) : Nat :=
  digits.foldl (fun value c => value * 10 + (c.toNat - '0'.toNat)) 0

def hasDoubled : List Char → Bool
  | '_' :: '_' :: _ => true
  | _ :: rest => hasDoubled rest
  | [] => false

/-- Drops the underscores, if each of them is single and stands inside. -/
def dropUnderscores? (text : List Char) : Option (List Char) :=
  if text.head? == some '_' || text.getLast? == some '_' || hasDoubled text then none
  else some (text.filter (· != '_'))

/-- Drops zeros, and underscores among them, down to another digit or a minus sign. Before a point
and at the end the character seen last stays. -/
def afterZero? (last : Char) : List Char → Option (List Char)
  | [] => some [last]
  | c :: rest =>
    if c == '0' || c == '_' then afterZero? c rest
    else if c == '.' then some (last :: c :: rest)
    else if isDigit c || c == '-' then some (c :: rest)
    else none

def dropZeros? : List Char → Option (List Char)
  | [] => none
  | c :: rest =>
    if c == '0' then afterZero? c rest
    else if isDigit c || c == '-' then some (c :: rest)
    else none

def dropFraction (text : List Char) : List Char :=
  match Text.cutAt? '.' text with
  | some (whole, '0' :: zeros) => if zeros.all (· == '0') then whole else text
  | _ => text

def nat? (digits : List Char) : Option Nat :=
  if !digits.isEmpty && digits.all isDigit then some (natOf digits) else none

/-- Digits, of which the first is a zero only if there is no other. -/
def plainNat? : List Char → Option Nat
  | '0' :: _ :: _ => none
  | digits => nat? digits

def plainInt? : List Char → Option Int
  | '-' :: digits => (plainNat? digits).map fun value => -(value : Int)
  | digits => (plainNat? digits).map Int.ofNat

/-- What keeps a text from being read as a whole number. -/
inductive IntegerFlaw where
  | malformed
  | tooLong
deriving DecidableEq, Repr

/-- The most characters a whole number may have, without what does not count. -/
def maxLength : Nat := 4300

/-- A whole number without what does not count: the zeros on both sides and the underscores. A minus
sign may stand in front of the zeros or behind them. -/
def bareInteger? (text : List Char) : Option (List Char) := do
  let bare (text : List Char) : Option (List Char) := do
    dropUnderscores? (dropFraction (← dropZeros? text))
  match text with
  | '+' :: '-' :: _ => none
  | '+' :: rest => bare rest
  | '-' :: rest => (bare rest).map ('-' :: ·)
  | rest => bare rest

def integer? (text : String) : Except IntegerFlaw Int :=
  match bareInteger? (Text.trimBy Text.isSpaceChar text.toList) with
  | none => .error .malformed
  | some bare =>
    if maxLength < bare.length then .error .tooLong
    else (plainInt? bare).elim (.error .malformed) .ok

def exponent? : List Char → Option Int
  | [] => some 0
  | mark :: rest =>
    if mark != 'e' && mark != 'E' then none
    else match rest with
      | '-' :: digits => (nat? digits).map fun value => -(value : Int)
      | '+' :: digits => (nat? digits).map Int.ofNat
      | digits => (nat? digits).map Int.ofNat

def scientific? (negative : Bool) (text : List Char) : Option Binary := do
  let whole := text.takeWhile isDigit
  let rest := text.dropWhile isDigit
  let (fraction, rest) := match rest with
    | '.' :: rest => (rest.takeWhile isDigit, rest.dropWhile isDigit)
    | rest => ([], rest)
  if whole.isEmpty && fraction.isEmpty then none
  else
    let exponent ← exponent? rest
    return .ofDecimal negative (natOf (whole ++ fraction)) (exponent - fraction.length)

def magnitude? (negative : Bool) (text : List Char) : Option Binary :=
  match String.ofList (text.map Char.toLower) with
  | "inf" | "infinity" => some (.infinity negative)
  | "nan" => some .notANumber
  | _ => scientific? negative text

def signed? : List Char → Option Binary
  | '-' :: rest => magnitude? true rest
  | '+' :: rest => magnitude? false rest
  | rest => magnitude? false rest

/-- A text with underscores has to go without white space. -/
def decimal? (text : String) : Option Binary :=
  (signed? (Text.trimBy Text.isSpaceChar text.toList)).or
    ((dropUnderscores? text.toList).bind signed?)

end Rbac.Number.Loose
