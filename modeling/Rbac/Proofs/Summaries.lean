import Mathlib.Algebra.Order.Field.Power
import Mathlib.Tactic.NormNum
import Rbac.Benchmark.Summary
import Rbac.Proofs.Percentiles
import Rbac.Proofs.Rounding

namespace Rbac

open Number (Binary)

namespace Percentile

variable {α : Type} {count mantissa : Nat} {exponent : Int}

theorem rank_binary (hcount : count < 2 ^ 53)
    (hbelow : (mantissa : ℚ) * 2 ^ exponent * count < 2 ^ 53) :
    ∃ places units : Nat, Binary.Rounds (mantissa * 2 ^ exponent * count) places units ∧
      rank count (.binary (.finite false mantissa exponent)) =
        .ok (⌊(units : ℚ) / 2 ^ places⌋₊ : Int) := by
  obtain ⟨whole, power, hwhole, hvalue⟩ := Binary.ofInt_value hcount
  rw [mul_comm, ← hvalue] at hbelow
  obtain ⟨result, scale, places, units, hmul, hresult, hrounds⟩ := Binary.mul_rounds hbelow
  rw [hvalue, mul_comm] at hrounds
  refine ⟨places, units, hrounds, ?_⟩
  simp only [rank, hwhole, hmul]
  rw [Binary.truncate_eq_floor, hresult]

/-- To the next whole number of values at least one part is missing, of as many as the share's
denominator says. -/
theorem part_le_missing (share : ℚ) (count : Nat) :
    (1 : ℚ) / share.den ≤ ⌊share * count⌋₊ + 1 - share * count := by
  have hden : (0 : ℚ) < share.den := Nat.cast_pos.mpr share.den_pos
  have hparts : share * count * share.den = (share.num * count : Int) := by
    rw [mul_right_comm, Rat.mul_den_eq_num]
    push_cast
    rfl
  have hlt : ((share.num * count : Int) : ℚ) < ((⌊share * count⌋₊ + 1) * share.den : Int) := by
    rw [← hparts]
    push_cast
    gcongr
    exact Nat.lt_floor_add_one _
  have hle : ((share.num * count + 1 : Int) : ℚ) ≤ ((⌊share * count⌋₊ + 1) * share.den : Int) :=
    Int.cast_le.mpr (Int.add_one_le_of_lt (Int.cast_lt.mp hlt))
  rw [div_le_iff₀ hden, sub_mul, hparts]
  push_cast at hle ⊢
  linarith

section Near

variable {share value : ℚ} {places units : Nat}

theorem floor_le_of_near (hrounds : Binary.Rounds (value * count) places units)
    (hshare : 0 ≤ share) (hnear : 2 ^ 54 * (share - value) ≤ value) :
    ⌊share * count⌋₊ ≤ ⌊(units : ℚ) / 2 ^ places⌋₊ := by
  have hfloor : (⌊share * count⌋₊ : ℚ) * 2 ^ places ≤ share * count * 2 ^ places := by
    gcongr
    exact Nat.floor_le (by positivity)
  have hmissing : 2 ^ 54 * ((share - value) * (count * 2 ^ places)) ≤
      value * (count * 2 ^ places) := by
    rw [← mul_assoc]
    gcongr
  have hbelow := hrounds.below
  exact Nat.le_floor (hrounds.le_div (by linarith))

/-- A product is not rounded to a whole number that is a part above it if there are as many places
as parts. -/
theorem floor_le_of_parts (hrounds : Binary.Rounds (value * count) places units)
    (hle : value ≤ share) (hparts : share.den ≤ 2 ^ places) :
    ⌊(units : ℚ) / 2 ^ places⌋₊ ≤ ⌊share * count⌋₊ := by
  have hden : (0 : ℚ) < share.den := Nat.cast_pos.mpr share.den_pos
  have hparts' : (share.den : ℚ) ≤ 2 ^ places := by exact_mod_cast hparts
  have hpart : (1 : ℚ) ≤ (⌊share * count⌋₊ + 1 - share * count) * 2 ^ places :=
    calc (1 : ℚ) = 1 / share.den * share.den := by field_simp
      _ ≤ 1 / share.den * 2 ^ places := by gcongr
      _ ≤ (⌊share * count⌋₊ + 1 - share * count) * 2 ^ places := by
        gcongr
        exact part_le_missing share count
  have hscaled : value * count * 2 ^ places ≤ share * count * 2 ^ places := by gcongr
  apply Nat.le_of_lt_succ
  rw [Nat.floor_lt (by positivity)]
  apply hrounds.div_lt
  push_cast
  linarith

/-- A binary number just below a share of at most 128 parts gives counts the ranks of that share: a
whole number of values is what the product is rounded to, and any other product stays too far below
the next whole number. -/
theorem rank_binary_eq_exact (hcount : count < 2 ^ 46)
    (hvalue : (mantissa : ℚ) * 2 ^ exponent = value) (hhalf : 1 / 2 ≤ value)
    (hle : value ≤ share) (hnear : 2 ^ 54 * (share - value) ≤ value) (hpart : share ≤ 1)
    (hden : share.den ≤ 2 ^ 7) :
    rank count (.binary (.finite false mantissa exponent)) = rank count (.exact share) := by
  have hcount' : (count : ℚ) < 2 ^ 46 := by exact_mod_cast hcount
  have hbelow : value * count < 2 ^ 46 :=
    (mul_le_of_le_one_left (Nat.cast_nonneg _) (hle.trans hpart)).trans_lt hcount'
  obtain ⟨places, units, hrounds, hrank⟩ :=
    rank_binary (hcount.trans (by norm_num)) (hvalue ▸ hbelow.trans (by norm_num))
  rw [hvalue] at hrounds
  have hshare : 0 ≤ share := by linarith
  rw [hrank, rank_exact count hshare]
  congr 2
  rcases Nat.eq_zero_or_pos count with rfl | hpositive
  · have hceil := hrounds.le_ceil
    rw [Nat.cast_zero, mul_zero, Nat.ceil_zero] at hceil
    simpa using hceil
  · have hone : (1 : ℚ) ≤ count := by exact_mod_cast hpositive
    have hplaces := hrounds.lt_places
      (hhalf.trans (le_mul_of_one_le_right (by linarith) hone)) hbelow
    have hparts : share.den ≤ 2 ^ places :=
      hden.trans (Nat.pow_le_pow_right (by decide) (by omega))
    exact le_antisymm (floor_le_of_parts hrounds hle hparts)
      (floor_le_of_near hrounds hshare hnear)

end Near

end Percentile

namespace Benchmark.Summary

open Percentile

theorem share95_eq : share95 = .finite false 8556839292003942 (-53) := by decide +kernel

theorem share99_eq : share99 = .finite false 8917127262193582 (-53) := by decide +kernel

theorem rank_share95 {count : Nat} (hcount : count < 2 ^ 46) :
    rank count (.binary share95) = rank count (.exact (95 / 100)) := by
  rw [share95_eq]
  refine rank_binary_eq_exact hcount rfl ?_ ?_ ?_ ?_ ?_
  · norm_num
  · norm_num
  · norm_num
  · norm_num
  · decide +kernel

theorem rank_share99 {count : Nat} (hcount : count < 2 ^ 46) :
    rank count (.binary share99) = rank count (.exact (99 / 100)) := by
  rw [share99_eq]
  refine rank_binary_eq_exact hcount rfl ?_ ?_ ?_ ?_ ?_
  · norm_num
  · norm_num
  · norm_num
  · norm_num
  · decide +kernel

variable {latencies : List Binary}

theorem percentile_of_rank {share : Binary} {fraction : ℚ} (hsome : latencies ≠ [])
    (hrank : rank latencies.length (.binary share) = rank latencies.length (.exact fraction))
    (hpositive : 0 ≤ fraction) (hpart : fraction ≤ 1) :
    ∃ latency ∈ latencies, percentile (ascending latencies) share = latency ∧
      pick (ascending latencies) (.exact fraction) = .ok latency := by
  have hperm : (ascending latencies).Perm latencies := List.mergeSort_perm latencies _
  have hsome' : ascending latencies ≠ [] := by
    intro hnil
    exact hsome (hnil ▸ hperm).nil_eq.symm
  obtain ⟨hinside, hpick⟩ := pick_exact hsome' hpositive hpart
  have hsame : pick (ascending latencies) (.binary share) =
      pick (ascending latencies) (.exact fraction) := by
    rw [pick, pick, hperm.length_eq, hrank]
  refine ⟨_, hperm.mem_iff.mp (List.getElem_mem hinside), ?_, hpick⟩
  rw [percentile, hsame, hpick]
  rfl

/-- What a summary reports as percentiles are latencies that were measured, and those that the exact
shares pick. -/
theorem reported_percentiles (hsome : latencies ≠ []) (hcount : latencies.length < 2 ^ 46) :
    (∃ latency ∈ latencies, percentile (ascending latencies) share95 = latency ∧
      pick (ascending latencies) (.exact (95 / 100)) = .ok latency) ∧
    (∃ latency ∈ latencies, percentile (ascending latencies) share99 = latency ∧
      pick (ascending latencies) (.exact (99 / 100)) = .ok latency) :=
  ⟨percentile_of_rank hsome (rank_share95 hcount) (by norm_num) (by norm_num),
    percentile_of_rank hsome (rank_share99 hcount) (by norm_num) (by norm_num)⟩

/-- Of two latencies the quicker one is reported, which is below their median. -/
example : percentile [.ofInt 1, .ofInt 3] share99 = .ofInt 1 ∧
    median [.ofInt 1, .ofInt 3] = .ofInt 2 := by
  decide +kernel

end Benchmark.Summary
end Rbac
