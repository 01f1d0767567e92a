import Rbac.Uuid.Basic

namespace Rbac

namespace Rows

variable {α : Type} (key : α → Uuid)

/-- Puts a row in place of the one with its key, or at the end. -/
def put (row : α) : List α → List α
  | [] => [row]
  | other :: rest => if key other = key row then row :: rest else other :: put row rest

def erase (id : Uuid) (rows : List α) : List α :=
  rows.filter fun row => key row ≠ id

theorem keys_put (row : α) (rows : List α) :
    (put key row rows).map key = if key row ∈ rows.map key then rows.map key
      else rows.map key ++ [key row] := by
  induction rows with
  | nil => simp [put]
  | cons other rest ih =>
    by_cases h : key other = key row
    · simp [put, h]
    · have h' : ¬ key row = key other := fun e => h e.symm
      by_cases hm : key row ∈ rest.map key <;>
        simp_all [put]

end Rows

/-- Rows with pairwise different keys. -/
structure Table (α : Type) (key : α → Uuid) where
  rows : List α
  keys_nodup : (rows.map key).Nodup

namespace Table

variable {α : Type} {key : α → Uuid}

def empty : Table α key := ⟨[], List.nodup_nil⟩

instance : Inhabited (Table α key) := ⟨empty⟩

def find? (table : Table α key) (id : Uuid) : Option α :=
  table.rows.find? fun row => key row == id

def put (table : Table α key) (row : α) : Table α key where
  rows := Rows.put key row table.rows
  keys_nodup := by
    rw [Rows.keys_put]
    split
    · exact table.keys_nodup
    · rename_i h
      rw [List.nodup_append]
      refine ⟨table.keys_nodup, by simp, ?_⟩
      intro a ha b hb e
      rw [List.mem_singleton] at hb
      exact h (hb ▸ e ▸ ha)

def erase (table : Table α key) (id : Uuid) : Table α key where
  rows := Rows.erase key id table.rows
  keys_nodup := table.keys_nodup.sublist (List.filter_sublist.map key)

/-- Rows in a given order, a later one in place of an earlier one with its key. -/
def ofList (rows : List α) : Table α key :=
  rows.foldl put empty

end Table
end Rbac
