namespace Rbac.Text.Utf8

/-- A character that is not complete yet: its bits so far, the bytes it lacks, and the bounds that
the next byte must keep. -/
structure Pending where
  bits : Nat
  lacks : Nat
  low : Nat
  high : Nat

/-- What a byte says where a character may start: `none` stands for a malformed run. -/
def start (byte : Nat) : List (Option Char) × Option Pending :=
  if byte < 0x80 then ([some (Char.ofNat byte)], none)
  else if 0xC2 ≤ byte && byte ≤ 0xDF then ([], some ⟨byte - 0xC0, 1, 0x80, 0xBF⟩)
  else if byte == 0xE0 then ([], some ⟨0, 2, 0xA0, 0xBF⟩)
  else if byte == 0xED then ([], some ⟨0xD, 2, 0x80, 0x9F⟩)
  else if 0xE1 ≤ byte && byte ≤ 0xEF then ([], some ⟨byte - 0xE0, 2, 0x80, 0xBF⟩)
  else if byte == 0xF0 then ([], some ⟨0, 3, 0x90, 0xBF⟩)
  else if byte == 0xF4 then ([], some ⟨4, 3, 0x80, 0x8F⟩)
  else if 0xF1 ≤ byte && byte ≤ 0xF3 then ([], some ⟨byte - 0xF0, 3, 0x80, 0xBF⟩)
  else ([none], none)

/-- One byte further. A byte that does not go on with the pending character closes it as malformed
and starts anew. -/
def advance (pending : Option Pending) (byte : Nat) : List (Option Char) × Option Pending :=
  match pending with
  | none => start byte
  | some p =>
    if p.low ≤ byte && byte ≤ p.high then
      let bits := p.bits * 64 + (byte - 0x80)
      if p.lacks ≤ 1 then ([some (Char.ofNat bits)], none)
      else ([], some ⟨bits, p.lacks - 1, 0x80, 0xBF⟩)
    else
      let (read, next) := start byte
      (none :: read, next)

def readFrom (pending : Option Pending) : List UInt8 → List (Option Char)
  | [] => if pending.isSome then [none] else []
  | byte :: rest =>
    let (read, next) := advance pending byte.toNat
    read ++ readFrom next rest

/-- The characters of a byte sequence, `none` for each malformed run. -/
def read (bytes : List UInt8) : List (Option Char) :=
  readFrom none bytes

def decode? (bytes : List UInt8) : Option String :=
  ((read bytes).mapM id).map String.ofList

/-- The text of any bytes, with a replacement character for each malformed run. -/
def decodeLossy (bytes : List UInt8) : String :=
  String.ofList ((read bytes).map (·.getD (Char.ofNat 0xFFFD)))

def encode (text : String) : List UInt8 :=
  text.toUTF8.toList

end Rbac.Text.Utf8
