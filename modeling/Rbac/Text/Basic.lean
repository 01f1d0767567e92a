import Rbac.Text.Surrogate

namespace Rbac

/-- A code point: a character, or half of a surrogate pair that stands alone and is no character. -/
inductive CodePoint where
  | char (c : Char)
  /-- The half that many places behind the first one. -/
  | half (index : Fin Text.Surrogate.count)
deriving DecidableEq, Repr

namespace CodePoint

instance : Coe Char CodePoint := ⟨char⟩

def value : CodePoint → Nat
  | .char c => c.toNat
  | .half index => Text.Surrogate.firstHalf + index

def ofValue (value : Nat) : CodePoint :=
  if h : Text.Surrogate.firstHalf ≤ value ∧
      value - Text.Surrogate.firstHalf < Text.Surrogate.count then
    .half ⟨value - Text.Surrogate.firstHalf, h.2⟩
  else .char (Char.ofNat value)

def char? : CodePoint → Option Char
  | .char c => some c
  | .half _ => none

def isHalf : CodePoint → Bool
  | .char _ => false
  | .half _ => true

theorem value_lt (point : CodePoint) : point.value < 0x110000 := by
  cases point with
  | char c =>
    have hvalid : c.toNat < 0xD800 ∨ 0xDFFF < c.toNat ∧ c.toNat < 0x110000 := c.valid
    show c.toNat < 0x110000
    omega
  | half index =>
    have hindex : (index : Nat) < 0x800 := index.isLt
    show 0xD800 + (index : Nat) < 0x110000
    omega

@[simp] theorem ofValue_value (point : CodePoint) : ofValue point.value = point := by
  cases point with
  | char c =>
    have hvalid : c.toNat < 0xD800 ∨ 0xDFFF < c.toNat ∧ c.toNat < 0x110000 := c.valid
    have hchar : ¬ (0xD800 ≤ c.toNat ∧ c.toNat - 0xD800 < 0x800) := by omega
    simp [value, ofValue, Text.Surrogate.firstHalf, Text.Surrogate.count, hchar]
  | half index => simp [value, ofValue]

theorem value_injective {a b : CodePoint} (h : a.value = b.value) : a = b := by
  rw [← ofValue_value a, h, ofValue_value]

end CodePoint

/-- A text of the service: any sequence of code points. A string is a text of characters alone; an
escape in a payload can name half of a surrogate pair, so that not every text is a string. -/
structure Text where
  points : List CodePoint
deriving DecidableEq, Repr

namespace Text

def ofString (text : String) : Text := ⟨text.toList.map .char⟩

instance : Coe String Text := ⟨ofString⟩

instance : Inhabited Text := ⟨⟨[]⟩⟩

instance : Append Text := ⟨fun a b => ⟨a.points ++ b.points⟩⟩

def length (text : Text) : Nat := text.points.length

def isEmpty (text : Text) : Bool := text.points.isEmpty

/-- Whether a text holds half of a surrogate pair on its own, so that it has no encoding. -/
def hasHalf (text : Text) : Bool := text.points.any (·.isHalf)

def string? (text : Text) : Option String :=
  (text.points.mapM CodePoint.char?).map String.ofList

theorem mapM_char?_eq_some {points : List CodePoint} {chars : List Char} :
    points.mapM CodePoint.char? = some chars ↔ points = chars.map .char := by
  induction points generalizing chars with
  | nil => cases chars <;> simp
  | cons point points ih =>
    cases point with
    | char c =>
      cases chars with
      | nil => simp [CodePoint.char?, Option.bind_eq_some_iff]
      | cons first rest => simp [CodePoint.char?, Option.bind_eq_some_iff, ih, and_left_comm]
    | half index => cases chars <;> simp [CodePoint.char?]

theorem string?_eq_some {text : Text} {string : String} :
    text.string? = some string ↔ text = ofString string := by
  constructor
  · intro h
    obtain ⟨chars, hchars, rfl⟩ := Option.map_eq_some_iff.mp h
    rw [ofString, String.toList_ofList, ← mapM_char?_eq_some.mp hchars]
  · rintro rfl
    rw [string?, ofString, mapM_char?_eq_some.mpr rfl, Option.map_some, String.ofList_toList]

@[simp] theorem string?_ofString (text : String) : (ofString text).string? = some text :=
  string?_eq_some.mpr rfl

@[simp] theorem ofString_inj {a b : String} : ofString a = ofString b ↔ a = b := by
  refine ⟨fun h => ?_, congrArg ofString⟩
  have hback := congrArg string? h
  rwa [string?_ofString, string?_ofString, Option.some_inj] at hback

@[simp] theorem ofString_beq (a b : String) : (ofString a == ofString b) = (a == b) := by
  rw [Bool.eq_iff_iff, beq_iff_eq, beq_iff_eq, ofString_inj]

@[simp] theorem hasHalf_ofString (text : String) : (ofString text).hasHalf = false := by
  simp [hasHalf, ofString, CodePoint.isHalf]

end Text
end Rbac
