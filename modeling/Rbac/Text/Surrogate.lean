namespace Rbac.Text.Surrogate

/-- The first code point that is half of a surrogate pair; the high halves come before the low ones.
-/
def firstHalf : Nat := 0xD800

def count : Nat := 0x800

def isHigh (unit : Nat) : Bool := 0xD800 ≤ unit && unit < 0xDC00
def isLow (unit : Nat) : Bool := 0xDC00 ≤ unit && unit < 0xE000

def join (high low : Nat) : Nat :=
  0x10000 + (high - 0xD800) * 0x400 + (low - 0xDC00)

def split (point : Nat) : Nat × Nat :=
  let beyond := point - 0x10000
  (0xD800 + beyond / 0x400, 0xDC00 + beyond % 0x400)

theorem join_split {point : Nat} (h : 0x10000 ≤ point) :
    join (split point).1 (split point).2 = point := by
  show 0x10000 + (0xD800 + (point - 0x10000) / 0x400 - 0xD800) * 0x400
    + (0xDC00 + (point - 0x10000) % 0x400 - 0xDC00) = point
  omega

end Rbac.Text.Surrogate
