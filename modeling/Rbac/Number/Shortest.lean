import Rbac.Number.Binary
import Rbac.Text.Digits

namespace Rbac.Number.Binary

/-- Whether the decimal `digits · 10^power` reads back as a number. -/
def roundsTo (mantissa : Nat) (exponent : Int) (digits : Nat) (power : Int) : Bool :=
  ofDecimal false digits power == .finite false mantissa exponent

/-- How often `10^power` goes into `mantissa · 2^exponent`, what is left over, and the unit that the
rest is counted against. -/
def gridBelow (mantissa : Nat) (exponent power : Int) : Nat × Nat × Nat :=
  let (n, d) := overPower mantissa 1 (-exponent)
  let (n, d) := if 0 ≤ power then (n, d * tenTo power.toNat) else (n * tenTo (-power).toNat, d)
  (n / d, n % d, d)

def digitCount (value : Nat) : Nat :=
  (toString value).length

def leadingPower (mantissa : Nat) (exponent : Int) : Int :=
  let (n, d) := overPower mantissa 1 (-exponent)
  if d ≤ n then (digitCount (n / d) : Int) - 1
  else
    let guess : Int := -(digitCount (d / n) : Int)
    if d ≤ n * tenTo (-guess - 1).toNat then guess + 1 else guess

/-- The decimal with `count` digits that reads back, if there is one: the nearer of the two
neighbours on that grid, a tie to the even one. -/
def withDigits? (mantissa : Nat) (exponent : Int) (count : Nat) : Option (Nat × Int) :=
  let power := leadingPower mantissa exponent - (count - 1)
  let (below, rest, unit) := gridBelow mantissa exponent power
  let fits (digits : Nat) := roundsTo mantissa exponent digits power
  let nearerAbove := unit < 2 * rest || (unit == 2 * rest && below % 2 == 1)
  if rest == 0 then some (below, power)
  else
    let order := if nearerAbove then [below + 1, below] else [below, below + 1]
    (order.find? fits).map (·, power)

/-- The shortest digits of a number that is not zero, and the power of ten of the last one. -/
def shortest (mantissa : Nat) (exponent : Int) : Nat × Int :=
  ((List.range 17).findSome? fun i => withDigits? mantissa exponent (i + 1)).getD
    (mantissa, exponent)

def dropZeros : Nat → Nat → Int → Nat × Int
  | 0, digits, power => (digits, power)
  | fuel + 1, digits, power =>
    if digits != 0 && digits % 10 == 0 then dropZeros fuel (digits / 10) (power + 1)
    else (digits, power)

/-- How many places before the point are written out, and how many zeros after it. -/
def positionalLimit : Int := 16
def leadingZeroLimit : Int := -4

def positional (digits : List Char) (point : Int) : List Char :=
  if point ≤ 0 then
    '0' :: '.' :: List.replicate (-point).toNat '0' ++ digits
  else
    let whole := digits.take point.toNat ++ List.replicate (point.toNat - digits.length) '0'
    let fraction := digits.drop point.toNat
    whole ++ '.' :: if fraction.isEmpty then ['0'] else fraction

def scientific (digits : List Char) (power : Int) : List Char :=
  let fraction := digits.drop 1
  let size := (toString power.natAbs).toList
  digits.take 1 ++ (if fraction.isEmpty then [] else '.' :: fraction)
    ++ 'e' :: (if power < 0 then '-' else '+') :: (if size.length < 2 then '0' :: size else size)

def text : Binary → String
  | .notANumber => "nan"
  | .infinity negative => if negative then "-inf" else "inf"
  | .finite negative mantissa exponent =>
    let sign := if negative then ['-'] else []
    if mantissa == 0 then String.ofList (sign ++ ['0', '.', '0'])
    else
      let (digits, power) := shortest mantissa exponent
      let (digits, power) := dropZeros 20 digits power
      let shown := (toString digits).toList
      let point : Int := power + shown.length
      if leadingZeroLimit < point && point ≤ positionalLimit then
        String.ofList (sign ++ positional shown point)
      else String.ofList (sign ++ scientific shown (point - 1))

/-- The text with a fixed number of places, a tie in the exact value to the even digit. -/
def fixed (places : Nat) : Binary → String
  | .finite negative mantissa exponent =>
    let (n, d) := overPower (mantissa * tenTo places) 1 (-exponent)
    let scaled := roundEven n d
    let whole := (toString (scaled / tenTo places)).toList
    let fraction := if places == 0 then [] else '.' :: Text.padded places scaled
    String.ofList ((if negative then ['-'] else []) ++ whole ++ fraction)
  | other => other.text

end Rbac.Number.Binary
