namespace Rbac.Url.Punycode

def base : Nat := 36
def leastThreshold : Nat := 1
def greatestThreshold : Nat := 26
def firstBias : Nat := 72

def firstPoint : Nat := 128

/-- The digit of a value: letters come before the ten digits. -/
def digit (value : Nat) : Char :=
  if value < 26 then Char.ofNat (97 + value) else Char.ofNat (22 + value)

/-- The threshold of a digit at a place, places counted in steps of the base. -/
def threshold (place bias : Nat) : Nat :=
  if place ≤ bias then leastThreshold
  else if bias + greatestThreshold ≤ place then greatestThreshold
  else place - bias

theorem one_le_threshold (place bias : Nat) : 1 ≤ threshold place bias := by
  unfold threshold leastThreshold greatestThreshold
  split
  · omega
  · split <;> omega

/-- The digits of a number, the least significant first; the first digit below its threshold is the
last. -/
def digits (bias place value : Nat) : List Char :=
  let t := threshold place bias
  if value < t then [digit value]
  else
    digit (t + (value - t) % (base - t)) :: digits bias (place + base) ((value - t) / (base - t))
termination_by value
decreasing_by
  have := one_le_threshold place bias
  have := Nat.div_le_self (value - threshold place bias) (base - threshold place bias)
  omega

/-- Divides a delta until it is small, and counts the places that this takes. -/
def settle (delta places : Nat) : Nat × Nat :=
  if 455 < delta then settle (delta / 35) (places + base) else (delta, places)
termination_by delta
decreasing_by exact Nat.div_lt_self (by omega) (by omega)

def adapt (delta written : Nat) (isFirst : Bool) : Nat :=
  let delta := if isFirst then delta / 700 else delta / 2
  let (delta, places) := settle (delta + delta / written) 0
  places + base * delta / (delta + 38)

/-- How far writing has come: what is written behind the ASCII characters, the distance since the
last character, the bias, and how many characters have been written. -/
structure State where
  output : List Char := []
  delta : Nat := 0
  bias : Nat := firstBias
  written : Nat

def pass (ascii point : Nat) (state : State) (c : Char) : State :=
  if c.toNat < point then { state with delta := state.delta + 1 }
  else if c.toNat == point then {
    output := state.output ++ digits state.bias base state.delta
    delta := 0
    bias := adapt state.delta (state.written + 1) (state.written == ascii)
    written := state.written + 1 }
  else state

/-- Writes the characters of each code point in turn, from the code point that comes next. -/
def write (text : List Char) (ascii : Nat) : List Nat → Nat → State → State
  | [], _, state => state
  | point :: points, next, state =>
    let state := { state with delta := state.delta + (point - next) * (state.written + 1) }
    let state := text.foldl (pass ascii point) state
    write text ascii points (point + 1) { state with delta := state.delta + 1 }

def encode (text : List Char) : List Char :=
  let plain := text.filter (·.toNat < firstPoint)
  let points := ((text.filter (firstPoint ≤ ·.toNat)).map Char.toNat).mergeSort.eraseDups
  plain ++ (if plain.isEmpty then [] else ['-'])
    ++ (write text plain.length points firstPoint { written := plain.length }).output

def value? (c : Char) : Option Nat :=
  if 'a' ≤ c && c ≤ 'z' then some (c.toNat - 97)
  else if '0' ≤ c && c ≤ '9' then some (c.toNat - 22)
  else none

/-- Takes a number off the front of a text, from the digit at a place, which counts `weight`-fold.
-/
def number? (bias place weight : Nat) : List Char → Option (Nat × List Char)
  | [] => none
  | c :: rest => do
    let value ← value? c
    let t := threshold place bias
    if value < t then return (value * weight, rest)
    let (more, rest) ← number? bias (place + base) (weight * (base - t)) rest
    return (value * weight + more, rest)

theorem length_of_number? {bias place weight : Nat} {text rest : List Char} {number : Nat}
    (h : number? bias place weight text = some (number, rest)) : rest.length < text.length := by
  induction text generalizing place weight number rest with
  | nil => simp [number?] at h
  | cons c text ih =>
    simp only [number?, Option.bind_eq_bind, Option.bind_eq_some_iff] at h
    obtain ⟨value, -, h⟩ := h
    split at h
    · simp_all
    · obtain ⟨⟨more, left⟩, hMore, h⟩ := Option.bind_eq_some_iff.1 h
      have := ih hMore
      simp_all
      omega

def maxPoint : Nat := 0x10FFFF

/-- How far reading has come: what is read, the place behind the last character and its code point,
the bias, and whether a number comes first. -/
structure Reached where
  read : List Char
  place : Nat := 0
  point : Nat := firstPoint
  bias : Nat := firstBias
  isFirst : Bool := true

/-- Puts in the character that lies a distance behind the last one. The code point grows by one with
each round through what is read. -/
def Reached.put? (reached : Reached) (distance : Nat) : Option Reached :=
  let length := reached.read.length + 1
  let point := reached.point + (reached.place + distance) / length
  let place := (reached.place + distance) % length
  if maxPoint < point || (0xD800 ≤ point && point < 0xE000) then none
  else some {
    read := reached.read.take place ++ Char.ofNat point :: reached.read.drop place
    place := place + 1
    point
    bias := adapt distance length reached.isFirst
    isFirst := false }

def fill? (reached : Reached) (text : List Char) : Option (List Char) :=
  match text with
  | [] => some reached.read
  | c :: rest =>
    match _h : number? reached.bias base 1 (c :: rest) with
    | none => none
    | some (distance, left) => do fill? (← reached.put? distance) left
termination_by text.length
decreasing_by exact length_of_number? (by assumption)

/-- Reads what is in ASCII: what stands before the last hyphen is kept, the rest are numbers. -/
def decode? (text : List Char) : Option (List Char) :=
  let numbers := (text.reverse.takeWhile (· != '-')).reverse
  fill? { read := (text.take (text.length - numbers.length)).dropLast } numbers

end Rbac.Url.Punycode
