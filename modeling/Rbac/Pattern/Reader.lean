import Rbac.Pattern.Basic
import Rbac.Text.Blank
import Rbac.Text.Digits
import Rbac.Text.Word

namespace Rbac.Pattern.Reader

def digitRanges : List (Nat × Nat) :=
  Text.digitZeros.toList.map fun first => (first, first + 9)

def lastPoint : Nat := 0x10FFFF

def gaps (start : Nat) : List (Nat × Nat) → List (Nat × Nat)
  | [] => [(start, lastPoint)]
  | (low, high) :: rest =>
    if start < low then (start, low - 1) :: gaps (high + 1) rest else gaps (high + 1) rest

def classOf? (letter : Char) : Option (List (Nat × Nat)) :=
  match letter with
  | 'd' => some digitRanges
  | 'D' => some (gaps 0 digitRanges)
  | 'w' => some Text.wordRanges
  | 'W' => some (gaps 0 Text.wordRanges)
  | 's' => some Text.blankRanges
  | 'S' => some (gaps 0 Text.blankRanges)
  | _ => none

/-- The code point that an escaped character stands for; letters and digits without a meaning of
their own are refused. -/
def escaped? (c : Char) : Option Nat :=
  match c with
  | 'n' => some 10
  | 't' => some 9
  | 'r' => some 13
  | 'f' => some 12
  | 'v' => some 11
  | 'a' => some 7
  | _ => if c.isAlphanum then none else some c.toNat

/-- The number that some digits at the front spell, each digit's value below the base. -/
def takeDigits? (base width : Nat) (text : List Char) : Option (Nat × List Char) := do
  let values ← (text.take width).mapM Text.hexValue?
  if values.length == width && values.all (· < base) then
    return (values.foldl (fun n value => n * base + value) 0, text.drop width)
  else none

def octalEscape? (text : List Char) : Option (Nat × List Char) :=
  (takeDigits? 8 3 text).or ((takeDigits? 8 2 text).or (takeDigits? 8 1 text))

def escape? (text : List Char) : Option (Nat × List Char) :=
  match text with
  | 'x' :: rest => takeDigits? 16 2 rest
  | 'u' :: rest => takeDigits? 16 4 rest
  | 'U' :: rest => (takeDigits? 16 8 rest).filter fun (value, _) => value ≤ lastPoint
  | '0' :: _ => octalEscape? text
  | c :: rest => (escaped? c).map (·, rest)
  | [] => none

/-- As `escape?`, where a class also takes the escape of a backspace and octal digits of any kind.
-/
def classEscape? (text : List Char) : Option (Nat × List Char) :=
  match text with
  | 'b' :: rest => some (8, rest)
  | _ => (escape? text).or ((octalEscape? text).filter fun (value, _) => value < 0x100)

def classItem? (text : List Char) : Option ((Nat ⊕ List (Nat × Nat)) × List Char) :=
  match text with
  | '\\' :: letter :: rest =>
    match classOf? letter with
    | some ranges => some (.inr ranges, rest)
    | none => (classEscape? (letter :: rest)).map fun (value, rest) => (.inl value, rest)
  | '\\' :: [] => none
  | c :: rest => some (.inl c.toNat, rest)
  | [] => none

def classRanges? : Nat → List Char → Option (List (Nat × Nat) × List Char)
  | 0, _ => none
  | fuel + 1, text => do
    let (item, rest) ← classItem? text
    let (ranges, rest) ←
      match item, rest with
      | .inl low, '-' :: ']' :: rest => some ([(low, low)], '-' :: ']' :: rest)
      | .inl low, '-' :: rest => do
        let (item, rest) ← classItem? rest
        match item with
        | .inl high => if low ≤ high then some ([(low, high)], rest) else none
        | .inr _ => none
      | .inl value, rest => some ([(value, value)], rest)
      | .inr ranges, '-' :: ']' :: rest => some (ranges, '-' :: ']' :: rest)
      | .inr _, '-' :: _ => none
      | .inr ranges, rest => some (ranges, rest)
    match rest with
    | ']' :: rest => return (ranges, rest)
    | _ =>
      let (more, rest) ← classRanges? fuel rest
      return (ranges ++ more, rest)

def class? (text : List Char) : Option (CharSet × List Char) :=
  let (negated, text) := match text with
    | '^' :: rest => (true, rest)
    | _ => (false, text)
  (classRanges? (text.length + 1) text).map fun (ranges, rest) => (⟨negated, ranges⟩, rest)

def digitsValue? (digits : List Char) : Option Nat :=
  if digits.isEmpty then none
  else some (digits.foldl (fun n c => n * 10 + (c.toNat - 48)) 0)

def isOpenBrace (c : Char) : Bool := c.toNat == 0x7B
def isCloseBrace (c : Char) : Bool := c.toNat == 0x7D

/-- Counts in braces, if what follows the opening brace spells them; else the brace is a character
like any other. -/
def counts? (text : List Char) : Option (Nat × Option Nat × List Char) :=
  let least := text.takeWhile Char.isDigit
  match text.dropWhile Char.isDigit with
  | ',' :: rest =>
    let most := rest.takeWhile Char.isDigit
    match rest.dropWhile Char.isDigit with
    | c :: after =>
      if isCloseBrace c then some ((digitsValue? least).getD 0, digitsValue? most, after) else none
    | [] => none
  | c :: after =>
    if isCloseBrace c then (digitsValue? least).map fun n => (n, some n, after) else none
  | [] => none

def quantifier? (text : List Char) : Option (Nat × Option Nat × List Char) :=
  match text with
  | '*' :: rest => some (0, none, rest)
  | '+' :: rest => some (1, none, rest)
  | '?' :: rest => some (0, some 1, rest)
  | c :: rest => if isOpenBrace c then counts? rest else none
  | [] => none

/-- A pattern with the quantifier after it, which one mark may follow: with `?` as few rounds as
possible go first, with `+` no round is ever taken back. -/
def quantified? (pattern : Pattern) (repeatable : Bool) (text : List Char) :
    Option (Pattern × List Char) :=
  match quantifier? text with
  | none => some (pattern, text)
  | some (least, most, rest) =>
    let (quantified, rest) := match rest with
      | '?' :: rest => (pattern.between true least most, rest)
      | '+' :: rest => (.atomic ((Pattern.atomic pattern).between false least most), rest)
      | _ => (pattern.between false least most, rest)
    if repeatable && !most.any (· < least) && (quantifier? rest).isNone then some (quantified, rest)
    else none

/-- What stands between a group's opening parenthesis and its pattern, and whether the group takes
only its first way. -/
def groupMark? (text : List Char) : Option (Bool × List Char) :=
  match text with
  | '?' :: ':' :: rest => some (false, rest)
  | '?' :: '>' :: rest => some (true, rest)
  | '?' :: 'P' :: '<' :: rest => (Text.cutAt? '>' rest).map fun (_, rest) => (false, rest)
  | '?' :: _ => none
  | _ => some (false, text)

/-- What an escape behind its backslash matches, and whether that can be repeated. -/
def escapedItem? (text : List Char) : Option (Pattern × Bool × List Char) :=
  match text with
  | 'A' :: rest => some (.atStart, false, rest)
  | 'Z' :: rest => some (.atVeryEnd, false, rest)
  | letter :: rest =>
    match classOf? letter with
    | some ranges => some (.one ⟨false, ranges⟩, true, rest)
    | none => (escape? text).map fun (value, rest) => (.one (.only value), true, rest)
  | [] => none

mutual

def alternatives? : Nat → List Char → Option (Pattern × List Char)
  | 0, _ => none
  | fuel + 1, text => do
    let (branch, rest) ← branch? fuel text
    match rest with
    | '|' :: rest =>
      let (others, rest) ← alternatives? fuel rest
      return (.alt branch others, rest)
    | _ => return (branch, rest)

def branch? : Nat → List Char → Option (Pattern × List Char)
  | 0, _ => none
  | fuel + 1, text =>
    match text with
    | [] => some (.empty, [])
    | '|' :: _ => some (.empty, text)
    | ')' :: _ => some (.empty, text)
    | _ => do
      let (item, repeatable, rest) ← atom? fuel text
      let (item, rest) ← quantified? item repeatable rest
      let (items, rest) ← branch? fuel rest
      return (if items = .empty then item else .seq item items, rest)

/-- One item, and whether it can be repeated: an anchor cannot. -/
def atom? : Nat → List Char → Option (Pattern × Bool × List Char)
  | 0, _ => none
  | fuel + 1, text =>
    match text with
    | '(' :: rest => do
      let (isAtomic, rest) ← groupMark? rest
      let (pattern, rest) ← alternatives? fuel rest
      match rest with
      | ')' :: rest => return (if isAtomic then .atomic pattern else pattern, true, rest)
      | _ => none
    | '[' :: rest => (class? rest).map fun (set, rest) => (.one set, true, rest)
    | '.' :: rest => some (.one .dot, true, rest)
    | '^' :: rest => some (.atStart, false, rest)
    | '$' :: rest => some (.atEnd, false, rest)
    | '\\' :: rest => escapedItem? rest
    | '*' :: _ | '+' :: _ | '?' :: _ => none
    | c :: rest =>
      if isOpenBrace c && (counts? rest).isSome then none
      else some (.one (.only c.toNat), true, rest)
    | [] => none

end

end Reader

/-- The pattern that a text spells, if it spells one. Look-arounds, word boundaries, references to
groups, conditions, named characters and flags are not taken. -/
def read? (text : String) : Option Pattern :=
  match Reader.alternatives? (3 * text.length + 3) text.toList with
  | some (pattern, []) => some pattern
  | _ => none

end Rbac.Pattern
