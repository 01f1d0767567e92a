import Mathlib.Data.List.Induction
import Rbac.Proofs.Repeats
import Rbac.Validation

namespace Rbac

/-- A list of breaches with the messages of each field brought together. -/
structure Grouped (broken : List Breach) (errors : List (String × List String)) : Prop where
  fields : Firsts (broken.map Prod.fst) (errors.map Prod.fst)
  messages : ∀ field messages, (field, messages) ∈ errors →
    messages = (broken.filter (·.1 = field)).map Prod.snd
  all : (errors.flatMap fun error => error.2.map (error.1, ·)).Perm broken

namespace Validation

variable {breach : Breach} {broken : List Breach} {errors : List (String × List String)}

theorem record_new (h : breach.1 ∉ errors.map Prod.fst) :
    record breach errors = errors ++ [(breach.1, [breach.2])] := by
  induction errors with
  | nil => rfl
  | cons error errors ih =>
    obtain ⟨hfirst, hrest⟩ : ¬ breach.1 = error.1 ∧ breach.1 ∉ errors.map Prod.fst := by
      simpa using h
    rw [record, if_neg (Ne.symm hfirst), ih hrest]
    rfl

theorem record_known (hnodup : (errors.map Prod.fst).Nodup) (h : breach.1 ∈ errors.map Prod.fst) :
    record breach errors = errors.map fun error =>
      (error.1, if error.1 = breach.1 then error.2 ++ [breach.2] else error.2) := by
  induction errors with
  | nil => cases h
  | cons error errors ih =>
    obtain ⟨hnew, hnodup⟩ := List.nodup_cons.mp hnodup
    by_cases hfirst : error.1 = breach.1
    · have hothers : ∀ other ∈ errors, other.1 ≠ breach.1 := by
        rintro other hother hsame
        exact hnew (hfirst ▸ hsame ▸ List.mem_map_of_mem hother)
      rw [record, if_pos hfirst, List.map_cons, if_pos hfirst]
      congr 1
      refine (List.map_id _).symm.trans (List.map_congr_left fun other hother => ?_)
      rw [if_neg (hothers other hother)]
      rfl
    · have hrest : breach.1 ∈ errors.map Prod.fst := by
        simpa [Ne.symm hfirst] using h
      rw [record, if_neg hfirst, ih hnodup hrest, List.map_cons, if_neg hfirst]

theorem record_perm (breach : Breach) (errors : List (String × List String)) :
    ((record breach errors).flatMap fun error => error.2.map (error.1, ·)).Perm
      (breach :: errors.flatMap fun error => error.2.map (error.1, ·)) := by
  induction errors with
  | nil => simp [record]
  | cons error errors ih =>
    by_cases hfirst : error.1 = breach.1
    · obtain ⟨field, messages⟩ := error
      obtain rfl : field = breach.1 := hfirst
      rw [record, if_pos rfl]
      simp
    · rw [record, if_neg hfirst, List.flatMap_cons, List.flatMap_cons]
      exact (ih.append_left _).trans List.perm_middle

theorem group_append (broken : List Breach) (breach : Breach) :
    group (broken ++ [breach]) = record breach (group broken) := by
  simp [group]

/-- Grouping, said field by field. -/
theorem group_eq (broken : List Breach) :
    group broken = (broken.map Prod.fst).eraseDups.map fun field =>
      (field, (broken.filter (·.1 = field)).map Prod.snd) := by
  induction broken using List.reverseRecOn with
  | nil => rfl
  | append_singleton broken breach ih =>
    have hkeys : (group broken).map Prod.fst = (broken.map Prod.fst).eraseDups := by
      simp [ih, Function.comp_def]
    have hmem : breach.1 ∈ (group broken).map Prod.fst ↔ breach.1 ∈ broken.map Prod.fst := by
      rw [hkeys, List.mem_eraseDups]
    rw [group_append, List.map_append, List.map_singleton, eraseDups_append_singleton]
    by_cases hknown : breach.1 ∈ broken.map Prod.fst
    · rw [record_known (hkeys ▸ nodup_eraseDups _) (hmem.mpr hknown), if_pos hknown, ih,
        List.map_map]
      apply List.map_congr_left
      intro field _
      by_cases hfield : field = breach.1
      · simp [hfield]
      · simp [hfield, Ne.symm hfield]
    · have hnone : broken.filter (·.1 = breach.1) = [] := by
        rw [List.filter_eq_nil_iff]
        intro other hother hsame
        exact hknown (of_decide_eq_true hsame ▸ List.mem_map_of_mem hother)
      rw [record_new (mt hmem.mp hknown), if_neg hknown, ih, List.map_append]
      congr 1
      · apply List.map_congr_left
        intro field hfield
        have hne : breach.1 ≠ field := by
          rintro rfl
          exact hknown (List.mem_eraseDups.mp hfield)
        simp [hne]
      · simp [hnone]

theorem group_grouped (broken : List Breach) : Grouped broken (group broken) := by
  refine ⟨?_, ?_, ?_⟩
  · have hkeys : (group broken).map Prod.fst = (broken.map Prod.fst).eraseDups := by
      simp [group_eq, Function.comp_def]
    rw [hkeys]
    exact firsts_eraseDups _
  · intro field messages hin
    rw [group_eq, List.mem_map] at hin
    obtain ⟨_, -, heq⟩ := hin
    cases heq
    rfl
  · induction broken using List.reverseRecOn with
    | nil => rfl
    | append_singleton broken breach ih =>
      rw [group_append]
      exact (record_perm breach _).trans
        ((ih.cons breach).trans (List.perm_append_singleton _ _).symm)

theorem group_singles (h : (broken.map Prod.fst).Nodup) :
    group broken = broken.map fun breach => (breach.1, [breach.2]) := by
  induction broken using List.reverseRecOn with
  | nil => rfl
  | append_singleton broken breach ih =>
    rw [List.map_append, List.nodup_append] at h
    obtain ⟨hnodup, -, hapart⟩ := h
    have hnew : breach.1 ∉ (group broken).map Prod.fst := by
      rw [ih hnodup, List.map_map]
      intro hin
      exact hapart _ hin _ (List.mem_singleton_self _) rfl
    rw [group_append, record_new hnew, ih hnodup, List.map_append]
    rfl

theorem check_eq {α : Type} (validators : List (α → List Breach)) (request : α) :
    check validators request =
      if validators.flatMap (· request) = [] then .ok ()
      else .error (.invalid (group (validators.flatMap (· request)))) := by
  rw [check]
  cases validators.flatMap (· request) with
  | nil => rfl
  | cons breach rest => rfl

end Validation
end Rbac
