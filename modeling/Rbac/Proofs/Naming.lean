import Mathlib.Data.List.Lex
import Rbac.Proofs.Tables
import Rbac.UseCase

namespace Rbac

namespace Text

theorem values_injective : Function.Injective values := by
  intro a b hab
  have hpoints := List.map_injective_iff.mpr (fun _ _ => CodePoint.value_injective) hab
  rwa [← Text.mk.injEq] at hpoints

theorem precedes_iff {a b : List Nat} : precedes a b = true ↔ List.Lex (· < ·) a b := by
  induction a generalizing b with
  | nil =>
    cases b with
    | nil => simp [precedes]
    | cons point rest => simp [precedes]
  | cons point rest ih =>
    cases b with
    | nil => simp [precedes]
    | cons other others =>
      by_cases hsame : point = other
      · simp [precedes, hsame, ih, List.lex_cons_iff]
      · simp [precedes, hsame, List.cons_lex_cons_iff]

theorem before_iff {a b : Text} :
    before a b = true ↔ List.Lex (· < ·) (values a) (values b) := precedes_iff

theorem not_before_total (a b : Text) : before b a = false ∨ before a b = false := by
  by_contra hboth
  simp only [not_or, Bool.not_eq_false, before_iff] at hboth
  exact asymm_of (List.Lex (· < ·)) hboth.1 hboth.2

theorem not_before_trans {a b c : Text} (hab : before b a = false) (hbc : before c b = false) :
    before c a = false := by
  by_contra hca
  rw [Bool.not_eq_false, before_iff] at hca
  have hbetween : List.Lex (· < ·) (values c) (values b) ∨
      List.Lex (· < ·) (values b) (values a) := IsOrderConnected.conn _ (values b) _ hca
  rcases hbetween with hcb | hba
  · rw [before_iff.mpr hcb] at hbc
    cases hbc
  · rw [before_iff.mpr hba] at hab
    cases hab

theorem eq_of_not_before {a b : Text} (hab : before a b = false) (hba : before b a = false) :
    a = b := by
  have hnone : ∀ {x y : Text}, before x y = false → ¬ List.Lex (· < ·) (values x) (values y) := by
    intro x y h hlex
    rw [before_iff.mpr hlex] at h
    cases h
  exact values_injective (Std.Trichotomous.trichotomous _ _ (hnone hab) (hnone hba))

end Text

namespace UseCase

theorem byName_sorted (roles : List Role) :
    (byName roles).Pairwise fun a b => Text.before b.name a.name = false := by
  have htrans : ∀ a b c : Role, (!Text.before b.name a.name) = true →
      (!Text.before c.name b.name) = true → (!Text.before c.name a.name) = true := by
    simpa using fun a b c hab hbc => Text.not_before_trans hab hbc
  have htotal : ∀ a b : Role,
      (!Text.before b.name a.name || !Text.before a.name b.name) = true := by
    simpa using fun a b : Role => Text.not_before_total a.name b.name
  exact (List.pairwise_mergeSort htrans htotal roles).imp (by simp)

end UseCase

namespace Store

def OwnNames (store : Store) : Prop :=
  ∀ a ∈ store.roles.rows, ∀ b ∈ store.roles.rows, a.name = b.name → a.scope = b.scope → a = b

theorem nameFree_iff {store : Store} {name : Text} {scope : Scope} {except : Option Uuid} :
    store.nameTaken name scope except = false ↔
      ∀ role ∈ store.roles.rows, role.name = name → role.scope = scope →
        some role.id = except := by
  simp [nameTaken]

theorem nameTaken_iff {store : Store} {name : Text} {scope : Scope} {except : Option Uuid} :
    store.nameTaken name scope except = true ↔
      ∃ role ∈ store.roles.rows, role.name = name ∧ role.scope = scope ∧ some role.id ≠ except := by
  simp [nameTaken, and_assoc]

theorem nameFree_except {store : Store} {name : Text} {scope : Scope}
    (h : store.nameTaken name scope none = false) (except : Option Uuid) :
    store.nameTaken name scope except = false := by
  apply nameFree_iff.mpr
  intro role hrole hname hscope
  cases nameFree_iff.mp h role hrole hname hscope

namespace OwnNames

variable {store : Store}

theorem empty : OwnNames .empty := by
  intro _ hin
  cases hin

/-- A role may come, or take the place of its older self, if no other role of its scope has the
name. -/
theorem put_role (h : OwnNames store) {role : Role}
    (hfree : store.nameTaken role.name role.scope (some role.id) = false) :
    OwnNames (store.putRole role) := by
  have hself : ∀ other ∈ store.roles.rows, other.name = role.name → other.scope = role.scope →
      other.id = role.id :=
    fun other ho hname hscope => Option.some.inj (nameFree_iff.mp hfree other ho hname hscope)
  intro a ha b hb hname hscope
  rcases Table.mem_put.mp ha with rfl | ⟨holda, hnea⟩
  · rcases Table.mem_put.mp hb with rfl | ⟨holdb, hneb⟩
    · rfl
    · exact absurd (hself b holdb hname.symm hscope.symm) hneb
  · rcases Table.mem_put.mp hb with rfl | ⟨holdb, _⟩
    · exact absurd (hself a holda hname hscope) hnea
    · exact h a holda b holdb hname hscope

theorem erase_role (h : OwnNames store) (id : Uuid) : OwnNames (store.eraseRole id) := by
  intro a ha b hb
  exact h a (Table.mem_erase.mp ha).1 b (Table.mem_erase.mp hb).1

/-- The roles of a scope are listed in strictly ascending order of their names. -/
theorem listed_ascending (h : OwnNames store) (scope : Scope) :
    (UseCase.byName (store.rolesIn scope)).Pairwise fun a b =>
      List.Lex (· < ·) (Text.values a.name) (Text.values b.name) := by
  have hdistinct : (UseCase.byName (store.rolesIn scope)).Nodup :=
    (List.mergeSort_perm _ _).nodup_iff.mpr (store.roles.keys_nodup.of_map.filter _)
  have hin : ∀ role ∈ UseCase.byName (store.rolesIn scope),
      role ∈ store.roles.rows ∧ role.scope = scope := by
    intro role hrole
    simpa [Store.rolesIn] using (List.mergeSort_perm _ _).mem_iff.mp hrole
  apply ((UseCase.byName_sorted _).and hdistinct).imp_of_mem
  rintro a b ha hb ⟨hle, hne⟩
  rw [← Text.before_iff]
  by_contra hnot
  have hname : a.name = b.name := Text.eq_of_not_before (by simpa using hnot) hle
  obtain ⟨hstored, hscope⟩ := hin a ha
  obtain ⟨hother, hsame⟩ := hin b hb
  exact hne (h a hstored b hother hname (hscope.trans hsame.symm))

end OwnNames
end Store
end Rbac
