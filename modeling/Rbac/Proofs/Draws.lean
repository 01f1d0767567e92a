import Rbac.Transaction

namespace Rbac

namespace Supply

/-- A supply and what it has become after some drawing. -/
structure Reaches (supply later : Supply) : Prop where
  ids : later.ids = supply.ids
  used : supply.used ≤ later.used

theorem Reaches.refl (supply : Supply) : supply.Reaches supply :=
  ⟨rfl, Nat.le_refl _⟩

theorem Reaches.trans {a b c : Supply} (hab : a.Reaches b) (hbc : b.Reaches c) : a.Reaches c :=
  ⟨hbc.ids.trans hab.ids, Nat.le_trans hab.used hbc.used⟩

theorem reaches_advance (supply : Supply) : supply.Reaches supply.advance :=
  ⟨rfl, Nat.le_succ _⟩

/-- The identifiers drawn on the way from one state of a supply to a later one. -/
def drawnUntil (supply later : Supply) : List Uuid :=
  (List.range' supply.used (later.used - supply.used)).map supply.ids

theorem mem_drawnUntil {supply later : Supply} {id : Uuid} :
    id ∈ supply.drawnUntil later ↔
      ∃ n, supply.used ≤ n ∧ n < later.used ∧ supply.ids n = id := by
  constructor
  · intro h
    obtain ⟨n, hn, rfl⟩ := List.mem_map.mp h
    rw [List.mem_range'_1] at hn
    exact ⟨n, hn.1, by omega, rfl⟩
  · rintro ⟨n, hl, hu, rfl⟩
    exact List.mem_map.mpr ⟨n, List.mem_range'_1.mpr ⟨hl, by omega⟩, rfl⟩

theorem next_mem_drawnUntil {supply later : Supply} (h : supply.advance.Reaches later) :
    supply.next ∈ supply.drawnUntil later :=
  mem_drawnUntil.mpr ⟨supply.used, Nat.le_refl _, h.used, rfl⟩

theorem drawnUntil_append {a b c : Supply} (hab : a.Reaches b) (hbc : b.Reaches c) :
    a.drawnUntil c = a.drawnUntil b ++ b.drawnUntil c := by
  have hlow := hab.used
  have hhigh := hbc.used
  have hrange : List.range' a.used (c.used - a.used) =
      List.range' a.used (b.used - a.used) ++ List.range' b.used (c.used - b.used) := by
    have hmid : b.used = a.used + 1 * (b.used - a.used) := by omega
    have hlen : c.used - a.used = (b.used - a.used) + (c.used - b.used) := by omega
    rw [hlen, ← List.range'_append, ← hmid]
  simp only [drawnUntil, hrange, List.map_append, hab.ids]

theorem drawnUntil_cons {supply later : Supply} (h : supply.advance.Reaches later) :
    supply.drawnUntil later = supply.next :: supply.advance.drawnUntil later := by
  rw [drawnUntil_append supply.reaches_advance h]
  simp [drawnUntil, advance, next]

theorem drawnUntil_first {a b c : Supply} (hab : a.Reaches b) (hbc : b.Reaches c) :
    ∀ id ∈ a.drawnUntil b, id ∈ a.drawnUntil c := by
  intro id hid
  rw [drawnUntil_append hab hbc]
  exact List.mem_append_left _ hid

theorem drawnUntil_second {a b c : Supply} (hab : a.Reaches b) (hbc : b.Reaches c) :
    ∀ id ∈ b.drawnUntil c, id ∈ a.drawnUntil c := by
  intro id hid
  rw [drawnUntil_append hab hbc]
  exact List.mem_append_right _ hid

end Supply

theorem Draw.run_reaches {α : Type} (d : Draw α) (supply : Supply) :
    supply.Reaches (d.run supply).2 := by
  induction d generalizing supply with
  | done value => exact .refl supply
  | draw next ih => exact supply.reaches_advance.trans (ih supply.next supply.advance)

def Store.ids (store : Store) : List Uuid :=
  store.roles.rows.flatMap (fun role => role.id :: role.permissions.map (·.id))
    ++ store.assignments.rows.map (·.id)

theorem Store.role_id_mem {store : Store} {role : Role} (h : role ∈ store.roles.rows) :
    role.id ∈ store.ids :=
  List.mem_append_left _ (List.mem_flatMap.mpr ⟨role, h, by simp⟩)

theorem Store.permission_id_mem {store : Store} {role : Role} {permission : Permission}
    (h : role ∈ store.roles.rows) (hp : permission ∈ role.permissions) :
    permission.id ∈ store.ids := by
  have hin : permission.id ∈ role.permissions.map (·.id) := List.mem_map.mpr ⟨permission, hp, rfl⟩
  exact List.mem_append_left _ (List.mem_flatMap.mpr ⟨role, h, List.mem_cons_of_mem _ hin⟩)

theorem Store.assignment_id_mem {store : Store} {assignment : Assignment}
    (h : assignment ∈ store.assignments.rows) : assignment.id ∈ store.ids :=
  List.mem_append_right _ (List.mem_map.mpr ⟨assignment, h, rfl⟩)

/-- Drawn identifiers that are new: no two are the same, and none was known before. -/
structure Fresh (drawn known : List Uuid) : Prop where
  distinct : drawn.Nodup
  absent : ∀ id ∈ drawn, id ∉ known

instance (drawn known : List Uuid) : Decidable (Fresh drawn known) :=
  decidable_of_iff (drawn.Nodup ∧ ∀ id ∈ drawn, id ∉ known)
    ⟨fun h => ⟨h.1, h.2⟩, fun h => ⟨h.distinct, h.absent⟩⟩

theorem Fresh.absent_left {drawn stored used : List Uuid} (h : Fresh drawn (stored ++ used)) :
    ∀ id ∈ drawn, id ∉ stored :=
  fun id hid hin => h.absent id hid (List.mem_append_left _ hin)

theorem Fresh.absent_right {drawn stored used : List Uuid} (h : Fresh drawn (stored ++ used)) :
    ∀ id ∈ drawn, id ∉ used :=
  fun id hid hin => h.absent id hid (List.mem_append_right _ hin)

theorem Fresh.first {first others known : List Uuid} (h : Fresh (first ++ others) known) :
    Fresh first known :=
  ⟨(List.nodup_append.mp h.distinct).1,
    fun id hid => h.absent id (List.mem_append_left _ hid)⟩

/-- Once the first identifiers are used, the others are still new, to the records that have got
some of the first ones too. -/
theorem Fresh.rest {first others known now : List Uuid} (h : Fresh (first ++ others) known)
    (hnow : ∀ id ∈ now, id ∈ known ∨ id ∈ first) : Fresh others (now ++ first) := by
  obtain ⟨_, hothers, hapart⟩ := List.nodup_append.mp h.distinct
  refine ⟨hothers, ?_⟩
  intro id hid hin
  have hused : id ∉ first := fun hfirst => hapart id hfirst id hid rfl
  rcases List.mem_append.mp hin with hrecord | hfirst
  · rcases hnow id hrecord with hold | hfirst
    · exact h.absent id (List.mem_append_right _ hid) hold
    · exact hused hfirst
  · exact hused hfirst

end Rbac
