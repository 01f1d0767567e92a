namespace Rbac.Number

inductive Binary where
  | finite (negative : Bool) (mantissa : Nat) (exponent : Int)
  | infinity (negative : Bool)
  | notANumber
deriving DecidableEq, Repr

/-- The whole number nearest to a fraction, a tie to the even one. -/
def roundEven (numerator denominator : Nat) : Nat :=
  let whole := numerator / denominator
  let twice := 2 * (numerator % denominator)
  if twice < denominator then whole
  else if denominator < twice then whole + 1
  else if whole % 2 == 0 then whole else whole + 1

def twoTo (exponent : Nat) : Nat := Nat.pow 2 exponent

def tenTo (exponent : Nat) : Nat := Nat.pow 10 exponent

namespace Binary

def zero : Binary := .finite false 0 0

def minExponent : Int := -1074
def maxExponent : Int := 971

def overPower (numerator denominator : Nat) (exponent : Int) : Nat × Nat :=
  if 0 ≤ exponent then (numerator, denominator * twoTo exponent.toNat)
  else (numerator * twoTo (-exponent).toNat, denominator)

/-- The exponent at which a fraction has 53 bits, or the least there is. -/
def exponentOf (numerator denominator : Nat) : Int :=
  let guess : Int := max ((numerator.log2 : Int) - denominator.log2 - 53) minExponent
  let (n, d) := overPower numerator denominator guess
  if twoTo 53 ≤ n / d then guess + 1 else guess

def ofFraction (negative : Bool) (numerator denominator : Nat) : Binary :=
  if numerator == 0 || denominator == 0 then .finite negative 0 0
  else
    let exponent := exponentOf numerator denominator
    let (n, d) := overPower numerator denominator exponent
    let mantissa := roundEven n d
    let (mantissa, exponent) :=
      if mantissa == twoTo 53 then (twoTo 52, exponent + 1) else (mantissa, exponent)
    if maxExponent < exponent then .infinity negative
    else .finite negative mantissa exponent

/-- The number nearest to decimal digits scaled by a power of ten. Powers past any number's reach
are not computed. -/
def ofDecimal (negative : Bool) (digits : Nat) (exponent : Int) : Binary :=
  if digits == 0 then .finite negative 0 0
  else if 400 < exponent then .infinity negative
  else if exponent < -400 - (digits.log2 : Int) then .finite negative 0 0
  else if 0 ≤ exponent then ofFraction negative (digits * tenTo exponent.toNat) 1
  else ofFraction negative digits (tenTo (-exponent).toNat)

def ofInt (value : Int) : Binary :=
  ofFraction (value < 0) value.natAbs 1

def fraction? : Binary → Option (Int × Nat)
  | .finite negative mantissa exponent =>
    let signed : Int := if negative then -(mantissa : Int) else mantissa
    if 0 ≤ exponent then some (signed * twoTo exponent.toNat, 1)
    else some (signed, twoTo (-exponent).toNat)
  | _ => none

def ofSigned (numerator : Int) (denominator : Nat) : Binary :=
  ofFraction (numerator < 0) numerator.natAbs denominator

def isNegative : Binary → Bool
  | .finite negative _ _ | .infinity negative => negative
  | .notANumber => false

def isZero : Binary → Bool
  | .finite _ mantissa _ => mantissa == 0
  | _ => false

/-- The sum. Infinities of both signs have none; a sum of zero is positive unless both parts are
negative. -/
def add (a b : Binary) : Binary :=
  match a, b with
  | .infinity x, .infinity y => if x == y then .infinity x else .notANumber
  | .infinity x, .finite .. | .finite .., .infinity x => .infinity x
  | a, b =>
    match a.fraction?, b.fraction? with
    | some (n, d), some (m, e) =>
      let sum := n * e + m * d
      if sum = 0 then .finite (a.isNegative && b.isNegative) 0 0 else ofSigned sum (d * e)
    | _, _ => .notANumber

def neg : Binary → Binary
  | .finite negative mantissa exponent => .finite (!negative) mantissa exponent
  | .infinity negative => .infinity (!negative)
  | .notANumber => .notANumber

def sub (a b : Binary) : Binary :=
  add a b.neg

def mul (a b : Binary) : Binary :=
  let negative := a.isNegative != b.isNegative
  match a, b with
  | .infinity _, .infinity _ => .infinity negative
  | .infinity _, .finite _ m _ | .finite _ m _, .infinity _ =>
    if m == 0 then .notANumber else .infinity negative
  | .finite _ m e, .finite _ n f =>
    let (numerator, denominator) := overPower (m * n) 1 (-(e + f))
    ofFraction negative numerator denominator
  | _, _ => .notANumber

/-- The quotient; a divisor of zero is for the caller to refuse. -/
def div (a b : Binary) : Binary :=
  let negative := a.isNegative != b.isNegative
  match a, b with
  | .infinity _, .finite .. => .infinity negative
  | .finite .., .infinity _ => .finite negative 0 0
  | .finite _ m e, .finite _ n f =>
    let (numerator, denominator) := overPower m n (f - e)
    ofFraction negative numerator denominator
  | _, _ => .notANumber

def isPositive : Binary → Bool
  | .finite negative mantissa _ => !negative && mantissa != 0
  | .infinity negative => !negative
  | .notANumber => false

def le (a b : Binary) : Bool :=
  match a, b with
  | .notANumber, _ | _, .notANumber => false
  | .infinity negative, b => negative || b = .infinity false
  | _, .infinity negative => !negative
  | a, b =>
    match a.fraction?, b.fraction? with
    | some (n, d), some (m, e) => n * e ≤ m * d
    | _, _ => false

def truncate : Binary → Int
  | .finite negative mantissa exponent =>
    let whole := if 0 ≤ exponent then mantissa * twoTo exponent.toNat
      else mantissa / twoTo (-exponent).toNat
    if negative then -(whole : Int) else whole
  | _ => 0

end Binary
end Rbac.Number
