import Mathlib.Data.List.Chain
import Rbac.Json.Reader
import Rbac.Json.Writer
import Rbac.Proofs.Spellings

namespace Rbac

open Text.Surrogate

theorem Text.Surrogate.split_bounds {value : Nat} (hfirst : 0x10000 ≤ value)
    (hlast : value < 0x110000) :
    (0xD800 ≤ (split value).1 ∧ (split value).1 < 0xDC00) ∧
      (0xDC00 ≤ (split value).2 ∧ (split value).2 < 0xE000) := by
  simp only [split]
  omega

/-- No high half stands right before a low one, where the two would read as one character. -/
def Text.Apart (text : Text) : Prop :=
  text.points.IsChain fun a b => ¬ (isHigh a.value = true ∧ isLow b.value = true)

instance (text : Text) : Decidable text.Apart := by
  unfold Text.Apart
  infer_instance

theorem CodePoint.not_high_of_char {point : CodePoint} (h : point.isHalf = false) :
    isHigh point.value = false := by
  cases point with
  | half => cases h
  | char c =>
    have hvalid : c.toNat < 0xD800 ∨ 0xDFFF < c.toNat ∧ c.toNat < 0x110000 := c.valid
    show isHigh c.toNat = false
    simp only [isHigh, Bool.and_eq_false_iff, decide_eq_false_iff_not]
    omega

theorem Text.apart_of_whole {text : Text} (h : text.hasHalf = false) : text.Apart := by
  refine List.Pairwise.isChain
    (List.Pairwise.imp_of_mem ?_ (List.pairwise_of_forall fun _ _ => trivial))
  rintro a b ha - - ⟨hhigh, -⟩
  have hchar : a.isHalf = false := by simpa using List.any_eq_false.mp h a ha
  rw [CodePoint.not_high_of_char hchar] at hhigh
  cases hhigh

@[simp] theorem Text.apart_ofString (text : String) : (ofString text).Apart :=
  apart_of_whole (hasHalf_ofString text)

namespace Json

def units (point : CodePoint) : List Nat :=
  if point.value < 0x10000 then [point.value]
  else [(split point.value).1, (split point.value).2]

theorem units_basic {point : CodePoint} (h : point.value < 0x10000) :
    units point = [point.value] := by
  rw [units, if_pos h]

theorem units_astral {point : CodePoint} (h : 0x10000 ≤ point.value) :
    units point = [(split point.value).1, (split point.value).2] := by
  rw [units, if_neg (by omega)]

theorem units_lt (point : CodePoint) : ∀ unit ∈ units point, unit < 0x10000 := by
  rcases Nat.lt_or_ge point.value 0x10000 with hbasic | hastral
  · simpa [units_basic hbasic] using hbasic
  · obtain ⟨⟨-, hhigh⟩, ⟨-, hlow⟩⟩ := split_bounds hastral point.value_lt
    simp only [units_astral hastral, List.mem_cons, List.not_mem_nil, or_false]
    omega

namespace Reader

theorem points?_unitEscape {unit : Nat} (h : unit < 0x10000) (rest : List Char) :
    points? (unitEscape unit ++ rest) =
      (points? rest).map fun read => (unit :: read.1, read.2) := by
  obtain ⟨values, hvalues, hvalue⟩ := Text.hexDigits_values 4 unit
  have hlength := Text.hexDigits_length 4 unit
  rw [Nat.mod_eq_of_lt (by omega)] at hvalue
  rw [unitEscape]
  generalize Text.hexDigits 4 unit = digits at *
  match digits, hlength with
  | [a, b, c, d], _ =>
    have hunit : unit? a b c d = some unit := by
      rw [unit?, hvalues]
      exact congrArg some hvalue
    simp only [List.cons_append, List.nil_append, points?, hunit]
    cases points? rest <;> rfl

theorem points?_unitEscapes {units : List Nat} (h : ∀ unit ∈ units, unit < 0x10000)
    (rest : List Char) :
    points? (units.flatMap unitEscape ++ rest) =
      (points? rest).map fun read => (units ++ read.1, read.2) := by
  induction units with
  | nil => exact Option.map_id'.symm
  | cons unit units ih =>
    obtain ⟨hfirst, hunits⟩ := List.forall_mem_cons.mp h
    rw [List.flatMap_cons, List.append_assoc, points?_unitEscape hfirst, ih hunits, Option.map_map]
    rfl

theorem points?_plain {c : Char} (hquote : c ≠ '"') (hslash : c ≠ '\\') (h : 0x20 ≤ c.toNat)
    (rest : List Char) :
    points? (c :: rest) = (points? rest).map fun read => (c.toNat :: read.1, read.2) := by
  rw [points?, if_neg (by omega)]
  · cases points? rest <;> rfl
  · exact hquote
  · exact fun _ _ _ _ _ heq => absurd heq hslash
  · exact fun _ _ heq => absurd heq hslash

theorem points?_mark {mark : Char} {point : Nat} (hmark : mark ≠ 'u')
    (h : simpleEscape? mark = some point) (rest : List Char) :
    points? ('\\' :: mark :: rest) =
      (points? rest).map fun read => (point :: read.1, read.2) := by
  rw [points?, h]
  · cases points? rest <;> rfl
  · exact fun _ _ _ _ _ heq => absurd heq hmark

def marks : List Char := ['"', '\\', 'n', 'r', 't', 'b', 'f']

theorem writePoint_cases (point : CodePoint) :
    (∃ mark ∈ marks, ∃ value, writePoint point = ['\\', mark] ∧ simpleEscape? mark = some value ∧
        units point = [value]) ∨
      (∃ c, point = .char c ∧ writePoint point = [c] ∧ c ≠ '"' ∧ c ≠ '\\' ∧ 0x20 ≤ c.toNat ∧
        c.toNat < 0x7F) ∨
      writePoint point = (units point).flatMap unitEscape := by
  cases point with
  | half index =>
    have hindex : (index : Nat) < 0x800 := index.isLt
    have hbasic : (CodePoint.half index).value < 0x10000 := by
      show 0xD800 + (index : Nat) < 0x10000
      omega
    exact .inr (.inr (by simp [writePoint, units_basic hbasic]))
  | char c =>
    have hvalue : (CodePoint.char c).value = c.toNat := rfl
    have hunits (h : c.toNat < 0x10000) : units (.char c) = [c.toNat] :=
      @units_basic (.char c) h
    simp only [writePoint]
    unfold writeChar
    split
    · rename_i hmark
      obtain rfl | rfl : c = '"' ∨ c = '\\' := by simpa using hmark
      · exact .inl ⟨'"', by decide, _, rfl, rfl, rfl⟩
      · exact .inl ⟨'\\', by decide, _, rfl, rfl, rfl⟩
    rename_i hmark
    split
    · rename_i hline
      obtain rfl : c = '\n' := by simpa using hline
      exact .inl ⟨'n', by decide, _, rfl, rfl, rfl⟩
    split
    · rename_i hreturn
      obtain rfl : c = '\r' := by simpa using hreturn
      exact .inl ⟨'r', by decide, _, rfl, rfl, rfl⟩
    split
    · rename_i htab
      obtain rfl : c = '\t' := by simpa using htab
      exact .inl ⟨'t', by decide, _, rfl, rfl, rfl⟩
    split
    · rename_i hback
      have heq : c.toNat = 8 := by simpa using hback
      exact .inl ⟨'b', by decide, 8, rfl, rfl, by rw [hunits (by omega), heq]⟩
    split
    · rename_i hfeed
      have heq : c.toNat = 12 := by simpa using hfeed
      exact .inl ⟨'f', by decide, 12, rfl, rfl, by rw [hunits (by omega), heq]⟩
    split
    · rename_i hplain
      obtain ⟨hquote, hslash⟩ : c ≠ '"' ∧ c ≠ '\\' := by simpa using hmark
      exact .inr (.inl ⟨c, rfl, rfl, hquote, hslash, by simpa using hplain⟩)
    · refine .inr (.inr ?_)
      unfold units
      rw [hvalue]
      split <;> simp

theorem points?_writePoint (point : CodePoint) (rest : List Char) :
    points? (writePoint point ++ rest) =
      (points? rest).map fun read => (units point ++ read.1, read.2) := by
  have hmarks : 'u' ∉ marks := by decide
  obtain ⟨mark, hmark, value, hwrite, hread, hunits⟩ | ⟨c, rfl, hwrite, hquote, hslash, hfirst,
      hlast⟩ |
    hwrite := writePoint_cases point
  · rw [hwrite, hunits]
    exact points?_mark (ne_of_mem_of_not_mem hmark hmarks) hread rest
  · have hbasic : (CodePoint.char c).value < 0x10000 := by
      show c.toNat < 0x10000
      omega
    rw [hwrite, units_basic hbasic]
    exact points?_plain hquote hslash hfirst rest
  · rw [hwrite]
    exact points?_unitEscapes (units_lt point) rest

theorem joinPairs_split {value : Nat} (hfirst : 0x10000 ≤ value) (hlast : value < 0x110000)
    (rest : List Nat) :
    joinPairs ((split value).1 :: (split value).2 :: rest) = value :: joinPairs rest := by
  obtain ⟨⟨hhigh, hhigh'⟩, ⟨hlow, hlow'⟩⟩ := split_bounds hfirst hlast
  have hpair : (isHigh (split value).1 && isLow (split value).2) = true := by
    simp [isHigh, isLow, hhigh, hhigh', hlow, hlow']
  rw [joinPairs, if_pos hpair, join_split hfirst]

theorem joinPairs_cons {unit : Nat} {rest : List Nat}
    (h : ∀ next ∈ rest.head?, ¬ (isHigh unit = true ∧ isLow next = true)) :
    joinPairs (unit :: rest) = unit :: joinPairs rest := by
  cases rest with
  | nil => rfl
  | cons next rest =>
    have hpair : ¬ (isHigh unit && isLow next) = true := by simpa using h next rfl
    rw [joinPairs, if_neg hpair]

/-- Halves that are not side by side stay as they are, and pairs are joined. -/
theorem joinPairs_units {points : List CodePoint}
    (h : points.IsChain fun a b => ¬ (isHigh a.value = true ∧ isLow b.value = true)) :
    joinPairs (points.flatMap units) = points.map (·.value) := by
  induction points with
  | nil => rfl
  | cons point points ih =>
    rw [List.flatMap_cons, List.map_cons, ← ih h.tail]
    rcases Nat.lt_or_ge point.value 0x10000 with hbasic | hastral
    · rw [units_basic hbasic, List.singleton_append]
      refine joinPairs_cons fun next hnext ⟨hhigh, hlow⟩ => ?_
      -- The next unit is low only if the next code point is a low half.
      rcases points with _ | ⟨follower, points⟩
      · cases hnext
      · rcases Nat.lt_or_ge follower.value 0x10000 with hbasic' | hastral'
        · obtain rfl : follower.value = next := by simpa [units_basic hbasic'] using hnext
          exact h.rel ⟨hhigh, hlow⟩
        · obtain rfl : (split follower.value).1 = next := by
            simpa [units_astral hastral'] using hnext
          have hbounds := (split_bounds hastral' follower.value_lt).1
          simp [isLow] at hlow
          omega
    · rw [units_astral hastral]
      exact joinPairs_split hastral point.value_lt _

/-- A string is read back as it was written. -/
theorem string?_writeStr {text : Text} (h : text.Apart) (rest : List Char) :
    string? (text.points.flatMap writePoint ++ '"' :: rest) = some (text, rest) := by
  have hpoints : ∀ points : List CodePoint, points? (points.flatMap writePoint ++ '"' :: rest) =
      some (points.flatMap units, rest) := by
    intro points
    induction points with
    | nil => rfl
    | cons point points ih => simp [points?_writePoint, ih]
  simp [string?, hpoints, joinPairs_units h, Function.comp_def]

theorem writePoint_plain (point : CodePoint) : (writePoint point).all Text.isPlain = true := by
  have hmarks : marks.all Text.isPlain = true := rfl
  obtain ⟨mark, hmark, value, hwrite, -⟩ | ⟨c, -, hwrite, -, -, hbounds⟩ | hwrite :=
    writePoint_cases point
  · have hslash : Text.isPlain '\\' = true := rfl
    simp [hwrite, hslash, List.all_eq_true.mp hmarks mark hmark]
  · simpa [hwrite, Text.isPlain] using hbounds
  · have hescape : ∀ unit, (unitEscape unit).all Text.isPlain = true := fun unit =>
      Text.hexDigits_plain 4 unit
    rw [hwrite, List.all_flatMap]
    exact List.all_eq_true.mpr fun unit _ => hescape unit

theorem writeStr_plain (text : Text) : (writeStr text).all Text.isPlain = true := by
  have hquote : Text.isPlain '"' = true := rfl
  have hpoints : (text.points.flatMap writePoint).all Text.isPlain = true := by
    rw [List.all_flatMap]
    exact List.all_eq_true.mpr fun point _ => writePoint_plain point
  simp only [writeStr, List.cons_append, List.all_cons, List.all_append, List.all_nil, hquote,
    hpoints, Bool.and_self]

end Reader
end Json
end Rbac
