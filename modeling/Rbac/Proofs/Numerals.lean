import Mathlib.Data.List.Basic
import Mathlib.Data.List.Induction
import Rbac.Proofs.Spellings

namespace Rbac

namespace Text

theorem trimBy_append {drop : Char → Bool} (before after : List Char) {text : List Char}
    (hbefore : ∀ c ∈ before, drop c = true) (hkept : ∀ c ∈ text, drop c = false)
    (hafter : ∀ c ∈ after, drop c = true) : trimBy drop (before ++ text ++ after) = text := by
  cases text with
  | nil =>
    have hall : (before ++ [] ++ after).all drop = true := by
      simp only [List.append_nil, List.all_eq_true, List.mem_append]
      rintro c (hc | hc)
      · exact hbefore c hc
      · exact hafter c hc
    exact trimBy_eq_nil_of_all hall
  | cons first rest =>
    have hfirst : drop first = false := hkept first List.mem_cons_self
    have hfront : (before ++ first :: rest ++ after).dropWhile drop = first :: rest ++ after := by
      rw [List.append_assoc, List.dropWhile_append_of_pos hbefore, List.cons_append,
        List.dropWhile_cons_of_neg (by simp [hfirst])]
    obtain ⟨last, init, hlast⟩ : ∃ last init, (first :: rest).reverse = last :: init :=
      List.exists_cons_of_ne_nil (by simp)
    have hkeeps : drop last = false := by
      apply hkept
      rw [← List.mem_reverse, hlast]
      exact List.mem_cons_self
    rw [trimBy, hfront, List.reverse_append,
      List.dropWhile_append_of_pos fun c hc => hafter c (List.mem_reverse.mp hc), hlast,
      List.dropWhile_cons_of_neg (by simp [hkeeps]), ← hlast, List.reverse_reverse]

theorem trimBy_eq_self {drop : Char → Bool} {text : List Char} (h : ∀ c ∈ text, drop c = false) :
    trimBy drop text = text := by
  simpa using trimBy_append [] [] (by simp) h (by simp)

theorem trimBy_sublist (drop : Char → Bool) (text : List Char) :
    (trimBy drop text).Sublist text := by
  have hback :
      (text.dropWhile drop).reverse.dropWhile drop |>.Sublist (text.dropWhile drop).reverse :=
    List.dropWhile_sublist drop
  have hfront : (trimBy drop text).Sublist (text.dropWhile drop) := by
    rw [trimBy, ← List.reverse_reverse (text.dropWhile drop)]
    simpa using hback.reverse
  exact hfront.trans (List.dropWhile_sublist drop)

theorem splitOn_eq_singleton {separator : Char} {text : List Char} (h : separator ∉ text) :
    splitOn separator text = [text] := by
  induction text with
  | nil => rfl
  | cons c text ih =>
    obtain ⟨hc, htext⟩ := not_or.mp (mt List.mem_cons.mpr h)
    have hne : (c == separator) = false := by simpa using fun he => hc he.symm
    simp [splitOn, hne, ih htext]

theorem splitOn_append {separator : Char} {text : List Char} (h : separator ∉ text)
    (rest : List Char) : splitOn separator (text ++ separator :: rest) =
      text :: splitOn separator rest := by
  induction text with
  | nil => simp [splitOn]
  | cons c text ih =>
    obtain ⟨hc, htext⟩ := not_or.mp (mt List.mem_cons.mpr h)
    have hne : (c == separator) = false := by simpa using fun he => hc he.symm
    simp [splitOn, hne, ih htext]

end Text

namespace Number.Integer

theorem digit_lt {base value : Nat} {c : Char} (h : digit? base c = some value) : value < base := by
  unfold digit? at h
  cases hdecimal : Text.decimalValue? c with
  | some decimal =>
    simp only [hdecimal] at h
    split at h
    · cases h
      assumption
    · cases h
  | none =>
    simp only [hdecimal, Option.bind_eq_some_iff] at h
    obtain ⟨hex, -, h⟩ := h
    split at h
    · cases h
      assumption
    · cases h

theorem digits_bounded {base : Nat} {text : List Char} {values : List Nat}
    (h : digits? base text = some values) :
    values.length ≤ text.length ∧ ∀ value ∈ values, value < base := by
  induction text using digits?.induct generalizing values with
  | case1 => simp [digits?] at h
  | case2 c =>
    obtain ⟨value, hvalue, rfl⟩ := Option.map_eq_some_iff.mp h
    simpa using digit_lt hvalue
  | case3 c rest ih =>
    simp only [digits?, Option.bind_eq_bind, Option.bind_eq_some_iff, Option.pure_def,
      Option.some.injEq] at h
    obtain ⟨value, hvalue, later, hlater, rfl⟩ := h
    obtain ⟨hlength, hbelow⟩ := ih hlater
    refine ⟨by simp only [List.length_cons]; omega, ?_⟩
    exact List.forall_mem_cons.mpr ⟨digit_lt hvalue, hbelow⟩
  | case4 c rest hnone hmark ih =>
    rw [digits?] at h
    · simp only [Option.bind_eq_bind, Option.bind_eq_some_iff, Option.pure_def,
        Option.some.injEq] at h
      obtain ⟨value, hvalue, later, hlater, rfl⟩ := h
      obtain ⟨hlength, hbelow⟩ := ih hlater
      refine ⟨by simpa using hlength, ?_⟩
      exact List.forall_mem_cons.mpr ⟨digit_lt hvalue, hbelow⟩
    · exact hnone
    · exact hmark

theorem ofDigits_lt {base : Nat} {digits : List Nat} (h : ∀ digit ∈ digits, digit < base) :
    ofDigits base digits < base ^ digits.length := by
  induction digits using List.reverseRecOn with
  | nil => simp [ofDigits]
  | append_singleton digits last ih =>
    have hlast : last < base := h last (by simp)
    have hbefore := ih fun digit hdigit => h digit (List.mem_append_left _ hdigit)
    have hstep : ofDigits base (digits ++ [last]) = ofDigits base digits * base + last := by
      simp [ofDigits]
    calc ofDigits base (digits ++ [last])
        = ofDigits base digits * base + last := hstep
      _ < (ofDigits base digits + 1) * base := by rw [Nat.add_one_mul]; omega
      _ ≤ base ^ digits.length * base := Nat.mul_le_mul_right base hbefore
      _ = base ^ (digits ++ [last]).length := by simp [Nat.pow_succ]

theorem dropBaseMark_length (base : Nat) (text : List Char) :
    (dropBaseMark base text).length ≤ text.length := by
  unfold dropBaseMark
  split
  · split
    · split
      · split
        · simp only [List.length_cons]
          omega
        · simp only [List.length_cons]
          omega
      · exact Nat.le_refl _
    · exact Nat.le_refl _
  · exact Nat.le_refl _

theorem magnitude_lt {text : List Char} {value : Nat} (h : magnitude? 16 text = some value) :
    value < 16 ^ text.length := by
  simp only [magnitude?, Option.bind_eq_bind, Option.bind_eq_some_iff] at h
  obtain ⟨digits, hdigits, h⟩ := h
  obtain ⟨hlength, hbelow⟩ := digits_bounded hdigits
  obtain rfl : ofDigits 16 digits = value := by simpa using h
  calc ofDigits 16 digits
      < 16 ^ digits.length := ofDigits_lt hbelow
    _ ≤ 16 ^ text.length :=
      Nat.pow_le_pow_right (by omega) (Nat.le_trans hlength (dropBaseMark_length 16 text))

/-- A number without a minus sign is not negative and has no more digits than characters. -/
theorem read_bounded {text : List Char} {value : Int} (hsign : '-' ∉ text)
    (h : read? 16 text = some value) : ∃ n : Nat, value = n ∧ n < 16 ^ text.length := by
  have htrim := Text.trimBy_sublist isPadding text
  have hpower : ∀ {part : List Char}, part.length ≤ (Text.trimBy isPadding text).length →
      16 ^ part.length ≤ 16 ^ text.length := fun hpart =>
    Nat.pow_le_pow_right (by omega) (Nat.le_trans hpart htrim.length_le)
  unfold read? at h
  split at h
  · rename_i rest heq
    obtain ⟨n, hn, rfl⟩ := Option.map_eq_some_iff.mp h
    have hrest : rest.length ≤ (Text.trimBy isPadding text).length := by simp [heq]
    exact ⟨n, rfl, Nat.lt_of_lt_of_le (magnitude_lt hn) (hpower hrest)⟩
  · rename_i rest heq
    exact absurd (htrim.subset (heq ▸ List.mem_cons_self)) hsign
  · obtain ⟨n, hn, rfl⟩ := Option.map_eq_some_iff.mp h
    exact ⟨n, rfl, Nat.lt_of_lt_of_le (magnitude_lt hn) (hpower (Nat.le_refl _))⟩

theorem digits_hex {text : List Char} {values : List Nat} (hne : text ≠ [])
    (h : text.mapM Text.hexValue? = some values) : digits? 16 text = some values := by
  induction text using digits?.induct generalizing values with
  | case1 => exact absurd rfl hne
  | case2 c =>
    simp only [List.mapM_cons, List.mapM_nil, Option.bind_eq_bind, Option.bind_eq_some_iff,
      Option.pure_def, Option.some.injEq] at h
    obtain ⟨value, hvalue, _, rfl, rfl⟩ := h
    rw [digits?, (Text.hexDigit_read hvalue).1, Option.map_some]
  | case3 c rest _ =>
    have hmark : Text.hexValue? '_' = none := by decide
    simp [List.mapM_cons, hmark] at h
  | case4 c rest hnone hmark ih =>
    simp only [List.mapM_cons, Option.bind_eq_bind, Option.bind_eq_some_iff, Option.pure_def,
      Option.some.injEq] at h
    obtain ⟨value, hvalue, later, hlater, rfl⟩ := h
    have hrest : rest ≠ [] := hnone
    rw [digits?, (Text.hexDigit_read hvalue).1, ih hrest hlater]
    · rfl
    · exact hnone
    · exact hmark

theorem read_hex {text : List Char} {values : List Nat} (hne : text ≠ [])
    (h : text.mapM Text.hexValue? = some values) :
    read? 16 text = some (Int.ofNat (ofDigits 16 values)) := by
  have hread : ∀ c ∈ text, isPadding c = false ∧ c ∉ Text.digitMarks ∧ Text.isPlain c = true := by
    intro c hc
    obtain ⟨value, hvalue⟩ := Text.hexValue_of_mem h hc
    exact (Text.hexDigit_read hvalue).2
  have hmark : dropBaseMark 16 text = text := by
    unfold dropBaseMark
    rw [if_pos (by rfl)]
    split
    · rename_i zero mark rest
      have hx := (hread mark (by simp)).2.1
      have hx : mark ≠ 'x' ∧ mark ≠ 'X' := by
        constructor <;> (rintro rfl; exact hx (by decide))
      simp [hx]
    · rfl
  have hmagnitude : magnitude? 16 text = some (ofDigits 16 values) := by
    simp [magnitude?, hmark, digits_hex hne h]
  rw [read?, Text.trimBy_eq_self fun c hc => (hread c hc).1]
  split
  · exact absurd (by decide) (hread '+' List.mem_cons_self).2.1
  · exact absurd (by decide) (hread '-' List.mem_cons_self).2.1
  · rw [hmagnitude]
    rfl

end Number.Integer

end Rbac
