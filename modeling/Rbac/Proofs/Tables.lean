import Mathlib.Data.List.Nodup
import Rbac.Store

namespace Rbac

namespace Rows

variable {α : Type} {key : α → Uuid}

theorem put_of_fresh {row : α} {rows : List α} (h : ∀ other ∈ rows, key other ≠ key row) :
    put key row rows = rows ++ [row] := by
  induction rows with
  | nil => rfl
  | cons other rest ih =>
    have hne : key other ≠ key row := h other (by simp)
    have hrest : ∀ row' ∈ rest, key row' ≠ key row := fun row' hr => h row' (by simp [hr])
    simp [put, hne, ih hrest]

theorem put_of_present {row : α} {rows : List α} (hu : (rows.map key).Nodup)
    (h : key row ∈ rows.map key) :
    put key row rows = rows.map fun other => if key other = key row then row else other := by
  induction rows with
  | nil => simp at h
  | cons other rest ih =>
    simp only [List.map_cons, List.nodup_cons] at hu
    by_cases he : key other = key row
    · have hrest : ∀ row' ∈ rest, key row' ≠ key row := by
        intro row' hr hk
        exact hu.1 (List.mem_map.mpr ⟨row', hr, hk.trans he.symm⟩)
      have hsame : rest.map (fun row' => if key row' = key row then row else row') = rest := by
        apply (List.map_congr_left _).trans rest.map_id
        intro row' hr
        simp [hrest row' hr]
      simp [put, he, hsame]
    · have hin : key row ∈ rest.map key := by
        rcases List.mem_cons.mp h with hk | hr
        · exact absurd hk.symm he
        · exact hr
      simp [put, he, ih hu.2 hin]

theorem mem_put {row other : α} {rows : List α} (hu : (rows.map key).Nodup) :
    other ∈ put key row rows ↔ other = row ∨ (other ∈ rows ∧ key other ≠ key row) := by
  by_cases h : key row ∈ rows.map key
  · obtain ⟨old, hold, hk⟩ := List.mem_map.mp h
    rw [put_of_present hu h]
    constructor
    · intro ho
      obtain ⟨row', hr, rfl⟩ := List.mem_map.mp ho
      by_cases he : key row' = key row
      · simp [he]
      · simp [he, hr]
    · rintro (rfl | ⟨ho, hne⟩)
      · exact List.mem_map.mpr ⟨old, hold, by simp [hk]⟩
      · exact List.mem_map.mpr ⟨other, ho, by simp [hne]⟩
  · have hfresh : ∀ row' ∈ rows, key row' ≠ key row := by
      intro row' hr hk
      exact h (List.mem_map.mpr ⟨row', hr, hk⟩)
    rw [put_of_fresh hfresh]
    constructor
    · intro ho
      rcases List.mem_append.mp ho with hr | he
      · exact Or.inr ⟨hr, hfresh other hr⟩
      · exact Or.inl (List.mem_singleton.mp he)
    · rintro (rfl | ⟨ho, _⟩)
      · simp
      · simp [ho]

theorem others_put (row : α) (rows : List α) :
    (put key row rows).filter (fun other => key other ≠ key row) =
      rows.filter fun other => key other ≠ key row := by
  induction rows with
  | nil => simp [put]
  | cons other rest ih =>
    by_cases hsame : key other = key row
    · simp [put, hsame]
    · simp only [put, if_neg hsame, List.filter_cons, ih]

end Rows

namespace Table

variable {α : Type} {key : α → Uuid}

/-- A row is found in a table afterwards, and the rows with other keys are what they were, in their
order. -/
structure Puts (row : α) (before after : Table α key) : Prop where
  found : after.find? (key row) = some row
  others : after.rows.filter (fun other => key other ≠ key row) =
    before.rows.filter fun other => key other ≠ key row

/-- No row with a key is found in a table afterwards, and those with other keys are what they were,
in their order. -/
structure Erases (id : Uuid) (before after : Table α key) : Prop where
  missing : after.find? id = none
  others : after.rows.filter (fun other => key other ≠ id) =
    before.rows.filter fun other => key other ≠ id

theorem ext_rows {a b : Table α key} (h : a.rows = b.rows) : a = b := by
  cases a
  cases b
  simp_all

theorem key_inj {table : Table α key} {a b : α} (ha : a ∈ table.rows) (hb : b ∈ table.rows)
    (h : key a = key b) : a = b :=
  List.inj_on_of_nodup_map table.keys_nodup ha hb h

theorem find_iff {table : Table α key} {id : Uuid} {row : α} :
    table.find? id = some row ↔ row ∈ table.rows ∧ key row = id := by
  constructor
  · intro h
    exact ⟨List.mem_of_find?_eq_some h, by simpa using List.find?_some h⟩
  · rintro ⟨hm, rfl⟩
    cases hf : table.find? (key row) with
    | none => simpa using List.find?_eq_none.mp hf row hm
    | some other =>
      have hk : key other = key row := by simpa using List.find?_some hf
      have ho := List.mem_of_find?_eq_some hf
      rw [key_inj ho hm hk]

theorem find_none_iff {table : Table α key} {id : Uuid} :
    table.find? id = none ↔ ∀ row ∈ table.rows, key row ≠ id := by
  simp [find?]

theorem mem_put {table : Table α key} {row other : α} :
    other ∈ (table.put row).rows ↔ other = row ∨ (other ∈ table.rows ∧ key other ≠ key row) :=
  Rows.mem_put table.keys_nodup

theorem mem_erase {table : Table α key} {id : Uuid} {row : α} :
    row ∈ (table.erase id).rows ↔ row ∈ table.rows ∧ key row ≠ id := by
  simp [erase, Rows.erase]

theorem find_erase (table : Table α key) (gone id : Uuid) :
    (table.erase gone).find? id = if gone = id then none else table.find? id := by
  split
  · rename_i h
    apply find_none_iff.mpr
    intro row hrow
    exact h ▸ (mem_erase.mp hrow).2
  · rename_i h
    apply Option.ext
    intro row
    rw [find_iff, find_iff, mem_erase]
    constructor
    · rintro ⟨⟨hrow, _⟩, hid⟩
      exact ⟨hrow, hid⟩
    · rintro ⟨hrow, hid⟩
      exact ⟨⟨hrow, fun hgone => h (hgone.symm.trans hid)⟩, hid⟩

theorem find_put (table : Table α key) (row : α) (id : Uuid) :
    (table.put row).find? id = if key row = id then some row else table.find? id := by
  split
  · rename_i h
    exact find_iff.mpr ⟨mem_put.mpr (Or.inl rfl), h⟩
  · rename_i h
    cases hf : table.find? id with
    | none =>
      apply find_none_iff.mpr
      intro other ho
      rcases mem_put.mp ho with rfl | ⟨hm, _⟩
      · exact h
      · exact find_none_iff.mp hf other hm
    | some other =>
      obtain ⟨hm, rfl⟩ := find_iff.mp hf
      exact find_iff.mpr ⟨mem_put.mpr (Or.inr ⟨hm, fun he => h he.symm⟩), rfl⟩

theorem puts_put (table : Table α key) (row : α) : Puts row table (table.put row) where
  found := by rw [find_put, if_pos rfl]
  others := Rows.others_put row table.rows

theorem erases_erase (table : Table α key) (id : Uuid) : Erases id table (table.erase id) where
  missing := by rw [find_erase, if_pos rfl]
  others := by simp [erase, Rows.erase]

theorem rows_put_of_fresh {table : Table α key} {row : α}
    (h : ∀ other ∈ table.rows, key other ≠ key row) :
    (table.put row).rows = table.rows ++ [row] :=
  Rows.put_of_fresh h

theorem erase_put {table : Table α key} {row : α}
    (h : ∀ other ∈ table.rows, key other ≠ key row) : (table.put row).erase (key row) = table := by
  apply ext_rows
  change Rows.erase key (key row) (table.put row).rows = table.rows
  rw [rows_put_of_fresh h, Rows.erase, List.filter_append]
  simpa using h

theorem rows_put_of_present {table : Table α key} {row old : α}
    (h : table.find? (key row) = some old) :
    (table.put row).rows =
      table.rows.map fun other => if key other = key row then row else other := by
  obtain ⟨hm, hk⟩ := find_iff.mp h
  exact Rows.put_of_present table.keys_nodup (List.mem_map.mpr ⟨old, hm, hk⟩)

theorem exists_split {table : Table α key} {row : α} (h : row ∈ table.rows) :
    ∃ before after, table.rows = before ++ row :: after ∧
      ∀ other ∈ before ++ after, key other ≠ key row := by
  obtain ⟨before, after, hrows⟩ := List.append_of_mem h
  have hkeys := table.keys_nodup
  rw [hrows, List.map_append, List.map_cons, List.nodup_middle, List.nodup_cons,
    ← List.map_append] at hkeys
  refine ⟨before, after, hrows, ?_⟩
  intro other ho he
  exact hkeys.1 (List.mem_map.mpr ⟨other, ho, he⟩)

theorem rows_put_of_split {table : Table α key} {row old : α} {before after : List α}
    (hrows : table.rows = before ++ old :: after)
    (hothers : ∀ other ∈ before ++ after, key other ≠ key old) (hkey : key row = key old) :
    (table.put row).rows = before ++ row :: after := by
  have hold : old ∈ table.rows := by simp [hrows]
  have hsame : ∀ rows : List α, (∀ other ∈ rows, other ∈ before ++ after) →
      rows.map (fun other => if key other = key row then row else other) = rows := by
    intro rows hin
    apply (List.map_congr_left _).trans rows.map_id
    intro other ho
    exact if_neg fun he => hothers other (hin other ho) (he.trans hkey)
  rw [rows_put_of_present (find_iff.mpr ⟨hold, hkey.symm⟩), hrows, List.map_append, List.map_cons,
    hsame before fun _ ho => List.mem_append_left _ ho,
    hsame after fun _ ho => List.mem_append_right _ ho, if_pos hkey.symm]

theorem filter_key (table : Table α key) (id : Uuid) :
    table.rows.filter (fun row => key row = id) = (table.find? id).toList := by
  cases hfound : table.find? id with
  | none =>
    have hnone := find_none_iff.mp hfound
    simpa using hnone
  | some row =>
    obtain ⟨hrow, rfl⟩ := find_iff.mp hfound
    obtain ⟨before, after, hrows, hothers⟩ := exists_split hrow
    have hbefore : before.filter (fun other => key other = key row) = [] := by
      simpa using fun other ho => hothers other (List.mem_append_left _ ho)
    have hafter : after.filter (fun other => key other = key row) = [] := by
      simpa using fun other ho => hothers other (List.mem_append_right _ ho)
    simp [hrows, hbefore, hafter]

theorem put_put (table : Table α key) (row : α) : (table.put row).put row = table.put row := by
  apply ext_rows
  rw [rows_put_of_present (find_put table row (key row) ▸ if_pos rfl)]
  apply (List.map_congr_left _).trans (List.map_id _)
  intro other ho
  rcases mem_put.mp ho with rfl | ⟨_, hne⟩
  · simp
  · simp [hne]

end Table
end Rbac
