import Mathlib.Data.List.Nodup

namespace Rbac

variable {α : Type} [DecidableEq α]

theorem nodup_eraseDups (list : List α) : list.eraseDups.Nodup := by
  match list with
  | [] => simp
  | a :: rest =>
    rw [List.eraseDups_cons, List.nodup_cons]
    exact ⟨by simp [List.mem_eraseDups], nodup_eraseDups _⟩
termination_by list.length
decreasing_by exact Nat.lt_succ_of_le (List.length_filter_le _ _)

/-- The elements of a list without repeats, in the order in which they come first. -/
structure Firsts (all kept : List α) : Prop where
  nodup : kept.Nodup
  mem_iff : ∀ element, element ∈ kept ↔ element ∈ all
  in_order : kept.Pairwise fun a b => all.idxOf a < all.idxOf b

theorem idxOf_lt_of_filter {p : α → Bool} {list : List α} {a b : α}
    (hb : p b = true) (h : (list.filter p).idxOf a < (list.filter p).idxOf b) :
    list.idxOf a < list.idxOf b := by
  induction list with
  | nil => exact absurd h (Nat.lt_irrefl _)
  | cons first rest ih =>
    by_cases hfirst : first = a
    · have hne : first ≠ b := by
        rintro rfl
        rw [hfirst] at h
        exact Nat.lt_irrefl _ h
      simp [hfirst, hfirst ▸ hne]
    · by_cases hother : first = b
      · subst hother
        simp [hb] at h
      · have hrest : (rest.filter p).idxOf a < (rest.filter p).idxOf b := by
          rw [List.filter_cons] at h
          split at h
          · simpa [List.idxOf_cons, hfirst, hother] using h
          · exact h
        have hlater := ih hrest
        simpa [List.idxOf_cons, hfirst, hother] using hlater

theorem firsts_eraseDups (all : List α) : Firsts all all.eraseDups := by
  refine ⟨nodup_eraseDups all, fun element => List.mem_eraseDups, ?_⟩
  match all with
  | [] => simp
  | first :: rest =>
    have hrest := (firsts_eraseDups (rest.filter fun other => !other == first)).in_order
    have hne : ∀ element ∈ (rest.filter fun other => !other == first).eraseDups,
        element ≠ first := by
      intro element hin
      simpa using (List.mem_filter.mp (List.mem_eraseDups.mp hin)).2
    rw [List.eraseDups_cons, List.pairwise_cons]
    refine ⟨?_, ?_⟩
    · intro element hin
      have hapart := hne element hin
      simp [hapart.symm]
    · apply hrest.imp_of_mem
      intro a b ha hb hlt
      have haway := hne a ha
      have hbway := hne b hb
      have hlater := idxOf_lt_of_filter (by simpa using hbway) hlt
      simpa [List.idxOf_cons, haway.symm, hbway.symm] using hlater
termination_by all.length
decreasing_by exact Nat.lt_succ_of_le (List.length_filter_le _ _)

theorem eraseDups_append_singleton (list : List α) (element : α) :
    (list ++ [element]).eraseDups =
      if element ∈ list then list.eraseDups else list.eraseDups ++ [element] := by
  rw [List.eraseDups_append]
  split
  · rename_i hknown
    have hnone : [element].removeAll list = [] := by simpa [List.removeAll] using hknown
    rw [hnone, List.eraseDups_nil, List.append_nil]
  · rename_i hnew
    have hkept : [element].removeAll list = [element] := by simpa [List.removeAll] using hnew
    rw [hkept]
    rfl

end Rbac
