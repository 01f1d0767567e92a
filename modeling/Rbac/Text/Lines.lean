namespace Rbac.Text

def lineEnds : List Nat :=
  [0x0A, 0x0B, 0x0C, 0x0D, 0x1C, 0x1D, 0x1E, 0x85, 0x2028, 0x2029]

def endsLine (c : Char) : Bool :=
  lineEnds.contains c.toNat

def consToFirst (c : Char) : List (List Char) → List (List Char)
  | [] => [[c]]
  | line :: lines => (c :: line) :: lines

/-- The lines of a text without what ends them. -/
def splitLines : List Char → List (List Char)
  | [] => []
  | '\r' :: '\n' :: rest => [] :: splitLines rest
  | c :: rest => if endsLine c then [] :: splitLines rest else consToFirst c (splitLines rest)

def lines (text : String) : List String :=
  (splitLines text.toList).map String.ofList

end Rbac.Text
