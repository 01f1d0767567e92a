namespace Rbac.Text.Base64

def digit (value : Nat) : Char :=
  if value < 26 then Char.ofNat (65 + value)
  else if value < 52 then Char.ofNat (71 + value)
  else if value < 62 then Char.ofNat (value - 4)
  else if value == 62 then '+'
  else '/'

/-- The first `count` of the four characters that 24 bits make. -/
def digits (count bits : Nat) : List Char :=
  ([18, 12, 6, 0].take count).map fun shift => digit ((bits >>> shift) % 64)

def encode : List UInt8 → List Char
  | a :: b :: c :: rest =>
    digits 4 (a.toNat * 65536 + b.toNat * 256 + c.toNat) ++ encode rest
  | [a, b] => digits 3 (a.toNat * 65536 + b.toNat * 256) ++ ['=']
  | [a] => digits 2 (a.toNat * 65536) ++ ['=', '=']
  | [] => []

end Rbac.Text.Base64
