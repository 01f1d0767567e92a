import Rbac.Text.Digits

namespace Rbac

/-- How many identifiers there are: one for every 32 hexadecimal digits. -/
abbrev uuidCount : Nat := 0x100000000000000000000000000000000

structure Uuid where
  value : Nat
  bounded : value < uuidCount
deriving DecidableEq

namespace Uuid

/-- The identifier that stands for "none given". -/
def nil : Uuid := ⟨0, by decide⟩

instance : Inhabited Uuid := ⟨nil⟩

def ofNat? (value : Nat) : Option Uuid :=
  if h : value < uuidCount then some ⟨value, h⟩ else none

def ofNat (value : Nat) : Uuid :=
  ⟨value % uuidCount, Nat.mod_lt _ (by decide)⟩

def isNil (id : Uuid) : Bool :=
  id.value == 0

def group (digits : List Char) : List Char :=
  digits.take 8 ++ '-' :: (digits.drop 8).take 4 ++ '-' :: (digits.drop 12).take 4
    ++ '-' :: (digits.drop 16).take 4 ++ '-' :: digits.drop 20

def chars (id : Uuid) : List Char :=
  group (Text.hexDigits 32 id.value)

def text (id : Uuid) : String :=
  String.ofList id.chars

def shown (id : Uuid) : String :=
  s!"UUID('{id.text}')"

instance : ToString Uuid := ⟨text⟩

theorem ofNat?_value (id : Uuid) : ofNat? id.value = some id :=
  dif_pos id.bounded

theorem value_injective {a b : Uuid} (h : a.value = b.value) : a = b := by
  rw [← Option.some_inj, ← ofNat?_value a, h, ofNat?_value]

end Uuid
end Rbac
