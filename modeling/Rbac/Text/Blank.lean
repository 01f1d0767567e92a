import Rbac.Text.Basic

namespace Rbac.Text

/-- The code point ranges, ends included, of white space. -/
def blankRanges : List (Nat × Nat) :=
  [(0x09, 0x0D), (0x1C, 0x20), (0x85, 0x85), (0xA0, 0xA0), (0x1680, 0x1680), (0x2000, 0x200A),
   (0x2028, 0x2029), (0x202F, 0x202F), (0x205F, 0x205F), (0x3000, 0x3000)]

def isBlankChar (c : Char) : Bool :=
  blankRanges.any fun (low, high) => low ≤ c.toNat && c.toNat ≤ high

/-- White space without the information separators, as Unicode's `White_Space` property has it. -/
def isSpaceChar (c : Char) : Bool :=
  isBlankChar c && !(0x1C ≤ c.toNat && c.toNat ≤ 0x1F)

/-- A text is blank when white space is all it holds; the empty text is blank. -/
def isBlank (text : Text) : Bool :=
  text.points.all fun point => point.char?.any isBlankChar

def trimBy (drop : Char → Bool) (text : List Char) : List Char :=
  ((text.dropWhile drop).reverse.dropWhile drop).reverse

def trim (text : String) : String :=
  String.ofList (trimBy isBlankChar text.toList)

def dropTrailing (c : Char) (text : String) : String :=
  String.ofList (text.toList.reverse.dropWhile (· == c)).reverse

/-- Cuts a list at each separator; there is always one piece more than there are separators. -/
def splitOn {α : Type} [BEq α] (separator : α) : List α → List (List α)
  | [] => [[]]
  | x :: rest =>
    if x == separator then [] :: splitOn separator rest
    else match splitOn separator rest with
      | piece :: pieces => (x :: piece) :: pieces
      | [] => [[x]]

def cutAt? {α : Type} [BEq α] (separator : α) : List α → Option (List α × List α)
  | [] => none
  | x :: rest =>
    if x == separator then some ([], rest)
    else (cutAt? separator rest).map fun (before, after) => (x :: before, after)

theorem trimBy_eq_nil_of_all {drop : Char → Bool} {text : List Char} (h : text.all drop) :
    trimBy drop text = [] := by
  have : text.dropWhile drop = [] := by
    induction text with
    | nil => rfl
    | cons c rest ih =>
      simp only [List.all_cons, Bool.and_eq_true] at h
      simp [h.1, ih h.2]
  simp [trimBy, this]

end Rbac.Text
