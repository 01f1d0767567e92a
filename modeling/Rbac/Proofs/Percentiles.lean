import Mathlib.Data.Int.ConditionallyCompleteOrder
import Mathlib.Data.Rat.Floor
import Mathlib.Tactic.Linarith
import Rbac.Percentile

namespace Rbac.Percentile

variable {α : Type} {values : List α} {share : ℚ}

theorem rank_exact (count : Nat) (hpositive : 0 ≤ share) :
    rank count (.exact share) = .ok (⌊share * count⌋₊ : Int) := by
  have hproduct : share * count = ((count * share.num : Int) : ℚ) / (share.den : ℚ) := by
    conv_lhs => rw [← Rat.num_div_den share]
    push_cast
    ring
  have hnum : 0 ≤ (count : Int) * share.num :=
    Int.mul_nonneg (Int.natCast_nonneg count) (Rat.num_nonneg.mpr hpositive)
  have hfloor : (⌊share * count⌋₊ : Int) = count * share.num / share.den := by
    rw [Int.natCast_floor_eq_floor (by positivity), hproduct, Rat.floor_intCast_div_natCast]
  rw [rank, hfloor, Int.tdiv_eq_ediv_of_nonneg hnum]

theorem floor_le_length (values : List α) (hpart : share ≤ 1) :
    ⌊share * values.length⌋₊ ≤ values.length := by
  apply Nat.floor_le_of_le
  exact mul_le_of_le_one_left (Nat.cast_nonneg _) hpart

theorem atRank_eq_ok (hsome : values ≠ []) {rank : Nat} (hrank : rank ≤ values.length) :
    ∃ inside : rank - 1 < values.length, atRank values (rank : Int) = .ok values[rank - 1] := by
  have hlength := List.length_pos_iff.mpr hsome
  have hinside : rank - 1 < values.length := by omega
  have hposition : ((rank : Int) - 1).toNat = rank - 1 := by omega
  refine ⟨hinside, ?_⟩
  simp [atRank, hposition, hinside]

theorem pick_exact (hsome : values ≠ []) (hpositive : 0 ≤ share) (hpart : share ≤ 1) :
    ∃ inside : ⌊share * values.length⌋₊ - 1 < values.length,
      pick values (.exact share) = .ok values[⌊share * values.length⌋₊ - 1] := by
  obtain ⟨hinside, hvalue⟩ := atRank_eq_ok hsome (floor_le_length values hpart)
  refine ⟨hinside, ?_⟩
  rw [pick, rank_exact values.length hpositive]
  exact hvalue

section Order

variable [Preorder α]

theorem getElem_le_getElem (hascending : values.Pairwise (· ≤ ·)) {position later : Nat}
    (hle : position ≤ later) (hinside : later < values.length) :
    values[position] ≤ values[later] := by
  rcases hle.eq_or_lt with rfl | hlt
  · exact le_rfl
  · exact List.pairwise_iff_getElem.mp hascending position later _ hinside hlt

variable [DecidableLE α]

def atMost (values : List α) (bound : α) : Nat :=
  values.countP (· ≤ bound)

/-- At least a share of the values are at most a bound. -/
def Reaches (values : List α) (share : ℚ) (bound : α) : Prop :=
  share * values.length ≤ atMost values bound

instance (values : List α) (share : ℚ) (bound : α) : Decidable (Reaches values share bound) :=
  inferInstanceAs (Decidable (share * values.length ≤ atMost values bound))

/-- The values that are at most a bound come first, so there are more than `position` of them
exactly when the value at that position is one. -/
theorem lt_atMost_iff (hascending : values.Pairwise (· ≤ ·)) (position : Nat) (bound : α) :
    position < atMost values bound ↔ ∃ value, values[position]? = some value ∧ value ≤ bound := by
  induction values generalizing position with
  | nil => simp [atMost]
  | cons first rest ih =>
    obtain ⟨hfirst, hrest⟩ := List.pairwise_cons.mp hascending
    by_cases hle : first ≤ bound
    · have hcount : atMost (first :: rest) bound = atMost rest bound + 1 := by simp [atMost, hle]
      cases position with
      | zero => simp [hcount, hle]
      | succ position => simpa [hcount] using ih hrest position
    · have hlarge : ∀ value ∈ first :: rest, ¬ value ≤ bound := by
        intro value hmem hvalue
        rcases List.mem_cons.mp hmem with rfl | hmem
        · exact hle hvalue
        · exact hle ((hfirst value hmem).trans hvalue)
      have hcount : atMost (first :: rest) bound = 0 := by
        apply List.countP_eq_zero.mpr
        simpa using hlarge
      rw [hcount]
      refine iff_of_false (Nat.not_lt_zero _) ?_
      rintro ⟨value, hvalue, hbound⟩
      exact hlarge value (List.mem_of_getElem? hvalue) hbound

theorem lt_atMost_self (hascending : values.Pairwise (· ≤ ·)) {position : Nat}
    (hinside : position < values.length) : position < atMost values values[position] :=
  (lt_atMost_iff hascending position _).mpr ⟨_, List.getElem?_eq_getElem hinside, le_rfl⟩

theorem reaches_of_lt_atMost {bound : α} (hcount : ⌊share * values.length⌋₊ < atMost values bound) :
    Reaches values share bound :=
  calc share * values.length
      ≤ (⌊share * values.length⌋₊ + 1 : Nat) := by
        push_cast
        exact (Nat.lt_floor_add_one _).le
    _ ≤ atMost values bound := Nat.cast_le.mpr hcount

theorem le_of_reaches (hascending : values.Pairwise (· ≤ ·)) (hpositive : 0 < share)
    (hinside : ⌊share * values.length⌋₊ - 1 < values.length) {bound : α}
    (hreaches : Reaches values share bound) :
    values[⌊share * values.length⌋₊ - 1] ≤ bound := by
  have hlength : 0 < values.length := by omega
  have hproduct : 0 < share * values.length := by positivity
  have hsome : 0 < atMost values bound := Nat.cast_pos.mp (hproduct.trans_le hreaches)
  have hfloor : ⌊share * values.length⌋₊ ≤ atMost values bound := Nat.floor_le_of_le hreaches
  obtain ⟨value, hvalue, hle⟩ :=
    (lt_atMost_iff hascending (⌊share * values.length⌋₊ - 1) bound).mp (by omega)
  rw [List.getElem?_eq_getElem hinside] at hvalue
  cases hvalue
  exact hle

/-- The value at a share's rank reaches the share unless the rank has been rounded down, and then
only if the value that follows is no larger. -/
theorem reaches_iff (hascending : values.Pairwise (· ≤ ·)) (hpositive : 0 < share)
    (hinside : ⌊share * values.length⌋₊ - 1 < values.length) :
    let picked := values[⌊share * values.length⌋₊ - 1]
    Reaches values share picked ↔
      share * values.length = ⌊share * values.length⌋₊ ∨ share * values.length < 1 ∨
        ∃ next, values[⌊share * values.length⌋₊]? = some next ∧ next ≤ picked := by
  intro picked
  have hcount : ⌊share * values.length⌋₊ - 1 < atMost values picked :=
    lt_atMost_self hascending hinside
  have hproduct : 0 ≤ share * values.length := by positivity
  have hbelow : (⌊share * values.length⌋₊ : ℚ) ≤ share * values.length := Nat.floor_le hproduct
  rw [← lt_atMost_iff hascending]
  constructor
  · intro hreaches
    by_cases hwhole : share * values.length = ⌊share * values.length⌋₊
    · exact Or.inl hwhole
    · have hrounded : (⌊share * values.length⌋₊ : ℚ) < atMost values picked :=
        (lt_of_le_of_ne hbelow (Ne.symm hwhole)).trans_le hreaches
      exact Or.inr (Or.inr (Nat.cast_lt.mp hrounded))
  · rintro (hwhole | hsmall | htie)
    · rw [Reaches, hwhole]
      exact Nat.cast_le.mpr (Nat.le_of_pred_lt hcount)
    · have hone : 1 ≤ atMost values picked := by omega
      exact hsmall.le.trans (Nat.one_le_cast.mpr hone)
    · exact reaches_of_lt_atMost htie

/-- A share up to all of some ascending values picks the one whose rank is the whole part of the
share, and a larger share none that is smaller. At least that many values are at most it, and it is
at most all that the share reaches. The value that follows always reaches the share; the one that is
picked does exactly when the share is a whole number of values, or less than one, or when the value
that follows is no larger. -/
theorem pick_reaches_iff (values : List α) (hsome : values ≠ [])
    (hascending : values.Pairwise (· ≤ ·)) (share : ℚ) (hpositive : 0 < share)
    (hpart : share ≤ 1) :
    let rank := ⌊share * values.length⌋₊
    ∃ inside : rank - 1 < values.length,
      let picked := values[rank - 1]
      pick values (.exact share) = .ok picked ∧
      (∀ larger, share ≤ larger → larger ≤ 1 →
        ∃ value, pick values (.exact larger) = .ok value ∧ picked ≤ value) ∧
      rank ≤ atMost values picked ∧
      (∀ bound, Reaches values share bound → picked ≤ bound) ∧
      (∀ next, values[rank]? = some next → Reaches values share next) ∧
      (Reaches values share picked ↔ share * values.length = rank ∨ share * values.length < 1 ∨
        ∃ next, values[rank]? = some next ∧ next ≤ picked) := by
  intro rank
  obtain ⟨hinside, hpick⟩ := pick_exact hsome hpositive.le hpart
  refine ⟨hinside, hpick, ?_, Nat.le_of_pred_lt (lt_atMost_self hascending hinside),
    fun bound => le_of_reaches hascending hpositive hinside, ?_,
    reaches_iff hascending hpositive hinside⟩
  · intro larger hle hlarger
    obtain ⟨hinside', hpick'⟩ := pick_exact hsome (hpositive.le.trans hle) hlarger
    have hproduct : share * values.length ≤ larger * values.length :=
      mul_le_mul_of_nonneg_right hle (Nat.cast_nonneg _)
    have hposition : rank - 1 ≤ ⌊larger * values.length⌋₊ - 1 :=
      Nat.sub_le_sub_right (Nat.floor_le_floor hproduct) 1
    exact ⟨_, hpick', getElem_le_getElem hascending hposition hinside'⟩
  · intro next hnext
    exact reaches_of_lt_atMost ((lt_atMost_iff hascending rank next).mpr ⟨next, hnext, le_rfl⟩)

end Order

/-- Five eighths of four values are two and a half; the second value is followed by its like. -/
theorem five_eighths_reached :
    let values : List Int := [3, 5, 5, 8]
    values ≠ [] ∧ values.Pairwise (· ≤ ·) ∧ (0 : ℚ) < 5 / 8 ∧ (5 / 8 : ℚ) ≤ 1 ∧
      pick values (.exact (5 / 8)) = .ok 5 ∧ 2 ≤ atMost values 5 ∧ Reaches values (5 / 8) 5 := by
  intro values
  have hrank : ⌊(5 / 8 : ℚ) * values.length⌋₊ = 2 := by decide +kernel
  obtain ⟨hinside, hpick, -, hcount, -, -, hiff⟩ :=
    pick_reaches_iff values (by decide) (by decide) (5 / 8) (by norm_num) (by norm_num)
  simp only [hrank] at hpick hcount hiff
  refine ⟨by decide, by decide, by norm_num, by norm_num, hpick, hcount, ?_⟩
  exact hiff.mpr (Or.inr (Or.inr ⟨5, rfl, le_rfl⟩))

/-- Three quarters of two values are one and a half, and the first value is picked, though only the
second reaches them. -/
theorem three_quarters_missed :
    let values : List Int := [1, 2]
    values.Pairwise (· ≤ ·) ∧ pick values (.exact (3 / 4)) = .ok 1 ∧
      pick values (.binary (.ofDecimal false 75 (-2))) = .ok 1 ∧
      ¬ Reaches values (3 / 4) 1 ∧ Reaches values (3 / 4) 2 := by
  decide +kernel

end Rbac.Percentile
