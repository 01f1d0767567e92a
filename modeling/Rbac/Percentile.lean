import Rbac.Number.Binary

namespace Rbac.Percentile

open Number (Binary)

/-- A share of all values, as an exact number or as a binary one. -/
inductive Share where
  | exact (value : Rat)
  | binary (value : Binary)
deriving DecidableEq, Repr

def Share.whole (value : Int) : Share :=
  .exact value

/-- Why there is no value at a share. -/
inductive Miss where
  | pastEnd
  /-- The rank is past what any position can be. -/
  | pastPositions
  | infinite
  | notANumber
deriving DecidableEq, Repr

def Miss.message : Miss → String
  | .pastEnd => "list index out of range"
  | .pastPositions => "cannot fit 'int' into an index-sized integer"
  | .infinite => "cannot convert float infinity to integer"
  | .notANumber => "cannot convert float NaN to integer"

variable {α : Type}

/-- The rank of a share. With a binary number the product is rounded before it is cut. -/
def rank (count : Nat) : Share → Except Miss Int
  | .exact value => .ok ((count * value.num).tdiv value.den)
  | .binary share =>
    match (Binary.ofInt count).mul share with
    | .infinity _ => .error .infinite
    | .notANumber => .error .notANumber
    | product => .ok product.truncate

def positionLimit : Nat := Number.twoTo 63

def Miss.ofPosition (position : Nat) : Miss :=
  if positionLimit ≤ position then .pastPositions else .pastEnd

/-- The value of a rank, counted from one. -/
def atRank (values : List α) (rank : Int) : Except Miss α :=
  let position := (rank - 1).toNat
  (values[position]?).elim (.error (.ofPosition position)) .ok

def pick (values : List α) (share : Share) : Except Miss α := do
  atRank values (← rank values.length share)

end Rbac.Percentile
