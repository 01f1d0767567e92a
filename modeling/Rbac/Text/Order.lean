import Rbac.Text.Basic

namespace Rbac.Text

def values (text : Text) : List Nat :=
  text.points.map (·.value)

/-- Whether code points come before others: at the first place that tells them apart they have the
smaller one, or they are at their end. -/
def precedes : List Nat → List Nat → Bool
  | _, [] => false
  | [], _ :: _ => true
  | a :: rest, b :: others => if a = b then precedes rest others else decide (a < b)

def before (a b : Text) : Bool :=
  precedes (values a) (values b)

end Rbac.Text
