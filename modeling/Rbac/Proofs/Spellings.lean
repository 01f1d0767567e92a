import Mathlib.Algebra.Group.Nat.Defs
import Mathlib.Data.List.Basic
import Rbac.Instant
import Rbac.Scope
import Rbac.Uuid.Reader

namespace Rbac

namespace Text

theorem hexDigit_value : ∀ value < 16, hexValue? (hexDigit value) = some value := by decide

@[simp] theorem hexDigits_length (width value : Nat) : (hexDigits width value).length = width := by
  induction width generalizing value with
  | zero => rfl
  | succ width ih => simp [hexDigits, ih]

def isPlain (c : Char) : Bool :=
  0x20 ≤ c.toNat && c.toNat < 0x7F

theorem hexDigits_plain (width value : Nat) : (hexDigits width value).all isPlain = true := by
  have hdigit : ∀ digit < 16, isPlain (hexDigit digit) = true := by decide
  induction width generalizing value with
  | zero => rfl
  | succ width ih => simp [hexDigits, ih, hdigit (value % 16) (Nat.mod_lt _ (by omega))]

def digitMarks : List Char := ['-', '{', '}', 'u', '+', '/', '_', 'x', 'X']

theorem ascii_digit : ∀ n < 128, hexValue? (Char.ofNat n) ≠ none →
    Number.Integer.digit? 16 (Char.ofNat n) = hexValue? (Char.ofNat n) ∧
      Number.Integer.isPadding (Char.ofNat n) = false ∧ Char.ofNat n ∉ digitMarks ∧
      isPlain (Char.ofNat n) = true := by
  decide +kernel

theorem hexDigit_ascii {c : Char} {value : Nat} (h : hexValue? c = some value) :
    c.toNat < 128 := by
  have hle : ∀ {top : Char}, top.toNat < 128 → c ≤ top → c.toNat < 128 := fun htop hc =>
    Nat.lt_of_le_of_lt (UInt32.le_iff_toNat_le.mp hc) htop
  unfold hexValue? at h
  split at h
  · rename_i hc
    simp only [Bool.and_eq_true, decide_eq_true_eq] at hc
    exact hle (by decide) hc.2
  · split at h
    · rename_i hc
      simp only [Bool.and_eq_true, decide_eq_true_eq] at hc
      exact hle (by decide) hc.2
    · split at h
      · rename_i hc
        simp only [Bool.and_eq_true, decide_eq_true_eq] at hc
        exact hle (by decide) hc.2
      · cases h

theorem hexValue_of_mem {text : List Char} {values : List Nat}
    (h : text.mapM hexValue? = some values) {c : Char} (hc : c ∈ text) :
    ∃ value, hexValue? c = some value := by
  induction text generalizing values with
  | nil => cases hc
  | cons first rest ih =>
    simp only [List.mapM_cons, Option.bind_eq_bind, Option.bind_eq_some_iff] at h
    obtain ⟨value, hvalue, later, hlater, -⟩ := h
    rcases List.mem_cons.mp hc with rfl | hrest
    · exact ⟨value, hvalue⟩
    · exact ih hlater hrest

theorem hexDigit_read {c : Char} {value : Nat} (h : hexValue? c = some value) :
    Number.Integer.digit? 16 c = some value ∧ Number.Integer.isPadding c = false ∧
      c ∉ digitMarks ∧ isPlain c = true := by
  have hread := ascii_digit c.toNat (hexDigit_ascii h)
  rw [Char.ofNat_toNat, h] at hread
  exact hread (by simp)

theorem hexDigits_values (width value : Nat) :
    ∃ values, (hexDigits width value).mapM hexValue? = some values ∧
      Number.Integer.ofDigits 16 values = value % 16 ^ width := by
  induction width generalizing value with
  | zero => exact ⟨[], rfl, by simp [Number.Integer.ofDigits, Nat.mod_one]⟩
  | succ width ih =>
    obtain ⟨values, hvalues, hbefore⟩ := ih (value / 16)
    refine ⟨values ++ [value % 16], ?_, ?_⟩
    · have hlast := hexDigit_value (value % 16) (Nat.mod_lt _ (by omega))
      simp [hexDigits, List.mapM_append, hvalues, hlast]
    · have hfold : Number.Integer.ofDigits 16 (values ++ [value % 16]) =
          Number.Integer.ofDigits 16 values * 16 + value % 16 := by
        simp [Number.Integer.ofDigits]
      rw [hfold, hbefore, Nat.pow_succ', Nat.mod_mul]
      omega

@[simp] theorem padded_length (width value : Nat) : (padded width value).length = width := by
  induction width generalizing value with
  | zero => rfl
  | succ width ih => simp [padded, ih]

theorem decimalDigit_toNat : ∀ digit < 10, (Char.ofNat (48 + digit)).toNat = 48 + digit := by decide

theorem isDigit_of_mem_padded {c : Char} {width value : Nat} (h : c ∈ padded width value) :
    c.isDigit = true := by
  have hdigit : ∀ digit < 10, (Char.ofNat (48 + digit)).isDigit = true := by decide
  induction width generalizing value with
  | zero => simp [padded] at h
  | succ width ih =>
    rcases List.mem_append.mp h with hbefore | hlast
    · exact ih hbefore
    · rw [List.mem_singleton.mp hlast]
      exact hdigit _ (Nat.mod_lt _ (by omega))

theorem padded_value (width value : Nat) :
    (padded width value).foldl (fun n c => n * 10 + (c.toNat - 48)) 0 = value % 10 ^ width := by
  induction width generalizing value with
  | zero => simp [padded, Nat.mod_one]
  | succ width ih =>
    have hlast := decimalDigit_toNat (value % 10) (Nat.mod_lt _ (by omega))
    rw [padded, List.foldl_append, ih, List.foldl_cons, List.foldl_nil, hlast, Nat.pow_succ',
      Nat.mod_mul]
    omega

end Text

namespace Uuid

theorem filter_group {digits : List Char} (h : '-' ∉ digits) :
    (group digits).filter (· != '-') = digits := by
  have hkeep : ∀ part, part ⊆ digits → part.filter (· != '-') = part := by
    intro part hpart
    refine List.filter_eq_self.mpr fun c hc => ?_
    simpa using fun hmark : c = '-' => h (hmark ▸ hpart hc)
  have hparts : digits = digits.take 8 ++ ((digits.drop 8).take 4 ++ ((digits.drop 12).take 4 ++
      ((digits.drop 16).take 4 ++ digits.drop 20))) := by
    have htake : ∀ k n, (digits.drop k).take n ++ digits.drop (k + n) = digits.drop k := by
      intro k n
      rw [← List.drop_drop, List.take_append_drop]
    rw [htake 16 4, htake 12 4, htake 8 4, List.take_append_drop]
  have hdrop : ∀ n, digits.drop n ⊆ digits := fun n => List.drop_subset n digits
  have htake : ∀ k n, (digits.drop k).take n ⊆ digits := fun k n _ hc =>
    hdrop k (List.take_subset n _ hc)
  simp only [group, List.filter_append, List.filter_cons, bne_self_eq_false, Bool.false_eq_true,
    if_false, hkeep _ (hdrop 20), hkeep _ (htake 8 4), hkeep _ (htake 12 4), hkeep _ (htake 16 4),
    hkeep _ (List.take_subset 8 digits), List.append_assoc]
  exact hparts.symm

/-- The plain spellings of 32 digits: alone, in groups, in groups between braces, and in groups
behind the mark of a name. -/
inductive Plain (digits : List Char) : List Char → Prop
  | alone : Plain digits digits
  | grouped : Plain digits (group digits)
  | braced : Plain digits ('{' :: (group digits ++ ['}']))
  | named : Plain digits (urnMark ++ group digits)

/-- A text spells an id plainly. -/
def SpelledPlainly (text : String) (id : Uuid) : Prop :=
  ∃ digits : List Char, digits.length = 32 ∧ ofHex? digits = some id ∧ Plain digits text.toList

theorem readSimple?_iff {text : List Char} {id : Uuid} :
    readSimple? text = some id ↔ text.length = 32 ∧ ofHex? text = some id := by
  by_cases h : text.length = 32 <;> simp [readSimple?, h]

theorem ofHex_chars {digits : List Char} {id : Uuid} (h : ofHex? digits = some id) :
    ∀ c ∈ digits, c ∉ Text.digitMarks ∧ Text.isPlain c = true := by
  intro c hc
  obtain ⟨values, hvalues, -⟩ := Option.bind_eq_some_iff.mp h
  obtain ⟨value, hvalue⟩ := Text.hexValue_of_mem hvalues hc
  exact (Text.hexDigit_read hvalue).2.2

theorem ofHex_notMark {digits : List Char} {id : Uuid} (h : ofHex? digits = some id) :
    ∀ c ∈ digits, c ∉ Text.digitMarks :=
  fun c hc => (ofHex_chars h c hc).1

theorem readHyphenated?_iff {text : List Char} {id : Uuid} :
    readHyphenated? text = some id ↔
      ∃ digits : List Char, digits.length = 32 ∧ ofHex? digits = some id ∧ text = group digits := by
  constructor
  · intro h
    simp only [readHyphenated?] at h
    split at h
    · rename_i hform
      simp only [Bool.and_eq_true, beq_iff_eq] at hform
      exact ⟨_, hform.1, h, hform.2.symm⟩
    · cases h
  · rintro ⟨digits, hlength, hid, rfl⟩
    have hhyphen : '-' ∉ digits := fun h => ofHex_notMark hid '-' h (by decide)
    simp [readHyphenated?, filter_group hhyphen, hlength, hid]

theorem group_cons {digits : List Char} (h : digits.length = 32) :
    ∃ first rest, first ∈ digits ∧ group digits = first :: rest := by
  cases digits with
  | nil => cases h
  | cons first rest => exact ⟨first, _, List.mem_cons_self, rfl⟩

theorem mem_group {digits : List Char} {c : Char} (h : c ∈ group digits) :
    c = '-' ∨ c ∈ digits := by
  simp only [group, List.mem_append, List.mem_cons, or_assoc] at h
  rcases h with h | rfl | h | rfl | h | rfl | h | rfl | h
  all_goals first
    | exact Or.inl rfl
    | exact Or.inr (List.mem_of_mem_take h)
    | exact Or.inr (List.mem_of_mem_drop (List.mem_of_mem_take h))
    | exact Or.inr (List.mem_of_mem_drop h)

theorem readPlainChars?_bare {first : Char} {rest : List Char} (hbrace : first ≠ '{')
    (hmark : first ≠ 'u') : readPlainChars? (first :: rest) =
      (readSimple? (first :: rest)).or (readHyphenated? (first :: rest)) := by
  have hurn : urnMark.isPrefixOf (first :: rest) = false := by
    have hmarks : urnMark = 'u' :: urnMark.tail := rfl
    rw [hmarks, List.isPrefixOf_cons_cons, beq_false_of_ne hmark.symm, Bool.false_and]
  rw [readPlainChars?, if_neg (by simp [hurn])]
  rintro rest' heq
  exact hbrace (List.cons.inj heq).1

/-- The plain grammar reads just the plain spellings. -/
theorem readPlain?_iff {text : String} {id : Uuid} :
    readPlain? text = some id ↔ SpelledPlainly text id := by
  rw [readPlain?, SpelledPlainly]
  generalize text.toList = text
  constructor
  · intro h
    unfold readPlainChars? at h
    split at h
    · rename_i rest
      split at h
      · rename_i hlast
        obtain ⟨digits, hlength, hid, hrest⟩ := readHyphenated?_iff.mp h
        have hback : rest.dropLast ++ ['}'] = rest :=
          List.dropLast_append_getLast? _ (by simpa using hlast)
        rw [hrest] at hback
        exact ⟨digits, hlength, hid, hback ▸ .braced⟩
      · cases h
    · split at h
      · rename_i hmark
        obtain ⟨digits, hlength, hid, hrest⟩ := readHyphenated?_iff.mp h
        obtain ⟨rest, rfl⟩ := List.isPrefixOf_iff_prefix.mp hmark
        rw [List.drop_left] at hrest
        exact ⟨digits, hlength, hid, hrest ▸ .named⟩
      · rcases Option.or_eq_some_iff.mp h with h | ⟨-, h⟩
        · obtain ⟨hlength, hid⟩ := readSimple?_iff.mp h
          exact ⟨text, hlength, hid, .alone⟩
        · obtain ⟨digits, hlength, hid, rfl⟩ := readHyphenated?_iff.mp h
          exact ⟨digits, hlength, hid, .grouped⟩
  · rintro ⟨digits, hlength, hid, hplain⟩
    have hgroup : readHyphenated? (group digits) = some id :=
      readHyphenated?_iff.mpr ⟨digits, hlength, hid, rfl⟩
    have hbare : ∀ first ∈ digits, first ≠ '{' ∧ first ≠ 'u' := by
      intro first hfirst
      have hnot := ofHex_notMark hid first hfirst
      exact ⟨fun h => hnot (by rw [h]; decide), fun h => hnot (by rw [h]; decide)⟩
    cases hplain with
    | alone =>
      obtain ⟨first, rest, rfl⟩ : ∃ first rest, text = first :: rest :=
        List.exists_cons_of_ne_nil (by rintro rfl; cases hlength)
      obtain ⟨hbrace, hmark⟩ := hbare first List.mem_cons_self
      rw [readPlainChars?_bare hbrace hmark, readSimple?_iff.mpr ⟨hlength, hid⟩, Option.some_or]
    | grouped =>
      have hsimple : readSimple? (group digits) = none := by
        simp [readSimple?, group, hlength]
      obtain ⟨first, rest, hfirst, hrest⟩ := group_cons hlength
      obtain ⟨hbrace, hmark⟩ := hbare first hfirst
      rw [hrest] at hgroup hsimple ⊢
      rw [readPlainChars?_bare hbrace hmark, hsimple, hgroup, Option.none_or]
    | braced => simp [readPlainChars?, hgroup]
    | named =>
      have hname : urnMark = 'u' :: urnMark.tail := rfl
      have hprefix : urnMark.isPrefixOf (urnMark ++ group digits) = true :=
        List.isPrefixOf_iff_prefix.mpr (List.prefix_append _ _)
      rw [readPlainChars?, if_pos hprefix, List.drop_left, hgroup]
      rintro rest heq
      rw [hname] at heq
      cases heq

theorem mem_plain {digits text : List Char} (h : Plain digits text) {c : Char} (hc : c ∈ text) :
    c ∈ digits ∨ c ∈ '-' :: '{' :: '}' :: urnMark := by
  have hgroup : c ∈ group digits → c ∈ digits ∨ c ∈ '-' :: '{' :: '}' :: urnMark := fun hc =>
    (mem_group hc).elim (fun he => .inr (he ▸ List.mem_cons_self)) .inl
  cases h with
  | alone => exact .inl hc
  | grouped => exact hgroup hc
  | braced =>
    simp only [List.mem_cons, List.mem_append, List.not_mem_nil, or_false] at hc
    rcases hc with rfl | hc | rfl
    · exact .inr (by decide)
    · exact hgroup hc
    · exact .inr (by decide)
  | named =>
    rcases List.mem_append.mp hc with hc | hc
    · exact .inr (List.mem_cons_of_mem _ (List.mem_cons_of_mem _ (List.mem_cons_of_mem _ hc)))
    · exact hgroup hc

theorem SpelledPlainly.chars {text : String} {id : Uuid} (h : SpelledPlainly text id) :
    '/' ∉ text.toList ∧ text.toList.all Text.isPlain = true := by
  obtain ⟨digits, -, hid, hplain⟩ := h
  have hmarks : ('-' :: '{' :: '}' :: urnMark).all Text.isPlain = true := by decide
  have hslashless : ('-' :: '{' :: '}' :: urnMark).contains '/' = false := by decide
  have hdigits := ofHex_chars hid
  constructor
  · intro hslash
    rcases mem_plain hplain hslash with hc | hc
    · exact (hdigits '/' hc).1 (by decide)
    · simp [hc] at hslashless
  · refine List.all_eq_true.mpr fun c hc => ?_
    rcases mem_plain hplain hc with hc | hc
    · exact (hdigits c hc).2
    · exact List.all_eq_true.mp hmarks c hc

theorem readPlain?_text (id : Uuid) : readPlain? id.text = some id := by
  obtain ⟨values, hvalues, hvalue⟩ := Text.hexDigits_values 32 id.value
  have hbounded : id.value < 16 ^ 32 := id.bounded
  rw [Nat.mod_eq_of_lt hbounded] at hvalue
  refine readPlain?_iff.mpr ⟨Text.hexDigits 32 id.value, Text.hexDigits_length 32 id.value, ?_, ?_⟩
  · simp [ofHex?, hvalues, hvalue, ofNat?_value]
  · rw [text, String.toList_ofList]
    exact .grouped

end Uuid

namespace Instant

theorem takeNumber?_padded {width value : Nat} (h : value < 10 ^ width) (rest : List Char) :
    takeNumber? width (Text.padded width value ++ rest) = some (value, rest) := by
  have hlength := Text.padded_length width value
  have hdigits : (Text.padded width value).all Char.isDigit = true :=
    List.all_eq_true.mpr fun c hc => Text.isDigit_of_mem_padded hc
  simp [takeNumber?, List.take_left' hlength, List.drop_left' hlength, hlength, hdigits,
    Text.padded_value, Nat.mod_eq_of_lt h]

@[simp] theorem takeMark?_cons (mark : Char) (rest : List Char) :
    takeMark? mark (mark :: rest) = some rest := by
  simp [takeMark?]

theorem offsetChars_cons (t : Instant) :
    ∃ sign rest, t.offsetChars = sign :: rest ∧ sign ≠ '.' ∧ sign.isDigit = false := by
  refine ⟨if t.offset < 0 then '-' else '+', _, rfl, ?_⟩
  split <;> decide

theorem takeFraction_wallClock (t : Instant) :
    takeFraction ((if t.micro = 0 then [] else '.' :: Text.padded 6 t.micro) ++ t.offsetChars) =
      some (t.micro, t.offsetChars) := by
  obtain ⟨sign, rest, hoffset, hpoint, hdigit⟩ := t.offsetChars_cons
  split
  · rename_i hzero
    rw [List.nil_append, hzero, hoffset, takeFraction]
    intro rest' heq
    exact hpoint (List.cons.inj heq).1
  · have hmicro : t.micro < 10 ^ 6 := by have := t.valid; unfold Valid at this; omega
    have hdigits : ∀ c ∈ Text.padded 6 t.micro, c.isDigit = true := fun c hc =>
      Text.isDigit_of_mem_padded hc
    have htake : (Text.padded 6 t.micro ++ t.offsetChars).takeWhile Char.isDigit =
        Text.padded 6 t.micro := by
      rw [List.takeWhile_append_of_pos hdigits, hoffset,
        List.takeWhile_cons_of_neg (by simp [hdigit]),
        List.append_nil]
    have hdrop : (Text.padded 6 t.micro ++ t.offsetChars).dropWhile Char.isDigit =
        t.offsetChars := by
      rw [List.dropWhile_append_of_pos hdigits, hoffset,
        List.dropWhile_cons_of_neg (by simp [hdigit])]
    have hread := takeNumber?_padded hmicro []
    rw [List.append_nil] at hread
    simp [takeFraction, htake, hdrop, hread]

theorem readOffset?_offsetChars (t : Instant) : readOffset? t.offsetChars = some t.offset := by
  have hbounds : -1440 < t.offset ∧ t.offset < 1440 := t.valid.2.2.2.2.2.2.2
  have hhours : t.offset.natAbs / 60 < 10 ^ 2 := by omega
  have hminutes : t.offset.natAbs % 60 < 10 ^ 2 := by omega
  have hparts := takeNumber?_padded hminutes []
  rw [List.append_nil] at hparts
  have hle : t.offset.natAbs % 60 ≤ 59 := by omega
  have hoffset : t.offset = if t.offset < 0
      then -(((t.offset.natAbs / 60 : Nat) : Int) * 60 + (t.offset.natAbs % 60 : Nat))
      else ((t.offset.natAbs / 60 : Nat) : Int) * 60 + (t.offset.natAbs % 60 : Nat) := by
    split <;> omega
  rw [offsetChars]
  generalize t.offset.natAbs / 60 = hours at *
  generalize t.offset.natAbs % 60 = minutes at *
  by_cases hsign : t.offset < 0
  · rw [if_pos hsign] at hoffset
    simp [readOffset?, hsign, takeNumber?_padded hhours, hparts, hle]
    omega
  · rw [if_neg hsign] at hoffset
    simp [readOffset?, hsign, takeNumber?_padded hhours, hparts, hle]
    omega

theorem read?_wallClock (t : Instant) {separator : Char} (h : separator = 'T' ∨ separator = ' ') :
    read? (String.ofList (t.wallClock separator ++ t.offsetChars)) = some t := by
  obtain ⟨⟨-, hyear⟩, ⟨-, hmonth⟩, ⟨-, hday⟩, hhour, hminute, hsecond, -, -⟩ := t.valid
  have hdays : Calendar.daysIn t.year t.month < 10 ^ 2 := by
    unfold Calendar.daysIn
    split <;> (try split) <;> omega
  have hmark : ∀ rest, (takeMark? 'T' (separator :: rest)).or (takeMark? ' ' (separator :: rest)) =
      some rest := by
    rcases h with rfl | rfl <;> simp [takeMark?]
  have hparts : ofParts? t.year t.month t.day t.hour t.minute t.second t.micro t.offset = some t :=
    dif_pos t.valid
  rw [read?, String.toList_ofList, wallClock]
  simp only [List.append_assoc, List.cons_append]
  rw [takeNumber?_padded (by omega : t.year < 10 ^ 4)]
  simp only [Option.bind_eq_bind, Option.bind_some, takeMark?_cons, hmark,
    takeNumber?_padded (by omega : t.month < 10 ^ 2),
      takeNumber?_padded (by omega : t.day < 10 ^ 2),
    takeNumber?_padded (by omega : t.hour < 10 ^ 2),
      takeNumber?_padded (by omega : t.minute < 10 ^ 2),
    takeNumber?_padded (by omega : t.second < 10 ^ 2), takeFraction_wallClock,
    readOffset?_offsetChars, hparts]

theorem read?_spacedText (t : Instant) : read? t.spacedText = some t :=
  t.read?_wallClock (.inr rfl)

end Instant

namespace ScopeType

theorem trim_text (type : ScopeType) : Text.trim type.text = type.text := by
  have hplain : Text.trimBy Text.isBlankChar type.text.toList = type.text.toList := by
    cases type with
    | organization => decide +kernel
    | workspace => decide +kernel
  rw [Text.trim, hplain, String.ofList_toList]

theorem lower_text_ne : Text.lower organization.text ≠ Text.lower workspace.text := by
  intro h
  -- The first letters tell them apart.
  have hfirst : (Text.lowerAfter [] organization.text.toList).head? =
      (Text.lowerAfter [] workspace.text.toList).head? :=
    congrArg List.head? (String.ofList_injective h)
  revert hfirst
  decide +kernel

theorem read?_text (type : ScopeType) : read? type.text = some type := by
  cases type with
  | organization => simp [read?, all, trim_text]
  | workspace => simp [read?, all, trim_text, lower_text_ne]

end ScopeType
end Rbac
