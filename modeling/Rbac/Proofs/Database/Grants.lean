import Rbac.Proofs.Database.Mirrors

namespace Rbac

def Store.held (store : Store) : List (Assignment × Role) :=
  store.assignments.rows.flatMap fun assignment =>
    (store.role? assignment.role).toList.map fun role => (assignment, role)

def Grant.ofHeld (held : Assignment × Role) : Grant :=
  ⟨held.1, some held.2⟩

theorem short_of_alike {α : Type} {rows : List α} (hdistinct : rows.Nodup)
    (halike : ∀ a ∈ rows, ∀ b ∈ rows, a = b) : rows.length ≤ 1 := by
  match rows with
  | [] => simp
  | [row] => simp
  | a :: b :: rest =>
    have hsame := halike a (by simp) b (by simp)
    simp [hsame] at hdistinct

/-- At most one assignment gives a role to a user in a scope id. -/
theorem Integrity.at_most_one {store : Store} (h : Integrity store) (role user scopeId : Uuid) :
    (store.assignments.rows.filter (·.isFor role user scopeId)).length ≤ 1 := by
  have hall : ∀ a ∈ store.assignments.rows.filter (·.isFor role user scopeId),
      ∀ b ∈ store.assignments.rows.filter (·.isFor role user scopeId), a = b := by
    intro a ha b hb
    obtain ⟨hstored, hkey⟩ := List.mem_filter.mp ha
    obtain ⟨hother, hsame⟩ := List.mem_filter.mp hb
    apply h.unique a hstored b hother
    rw [Assignment.isFor_iff.mp hkey, Assignment.isFor_iff.mp hsame]
  have hdistinct : (store.assignments.rows.filter (·.isFor role user scopeId)).Nodup :=
    store.assignments.keys_nodup.of_map.filter _
  exact short_of_alike hdistinct hall

theorem Store.mem_held {store : Store} {held : Assignment × Role} :
    held ∈ store.held ↔
      held.1 ∈ store.assignments.rows ∧ store.role? held.1.role = some held.2 := by
  obtain ⟨assignment, role⟩ := held
  simp only [Store.held, List.mem_flatMap, List.mem_map, Option.mem_toList, Prod.mk.injEq]
  constructor
  · rintro ⟨_, hstored, _, hrole, rfl, rfl⟩
    exact ⟨hstored, hrole⟩
  · rintro ⟨hstored, hrole⟩
    exact ⟨assignment, hstored, role, hrole, rfl, rfl⟩

theorem Store.load_held {store : Store} (h : Integrity store) (p : Assignment → Bool) :
    (store.held.filter fun held => p held.1).map Grant.ofHeld =
      (store.assignments.rows.filter p).map store.load := by
  have hrows : ∀ rows : List Assignment,
      (∀ assignment ∈ rows, assignment ∈ store.assignments.rows) →
      ((rows.flatMap fun assignment => (store.role? assignment.role).toList.map
        fun role => (assignment, role)).filter fun held => p held.1).map Grant.ofHeld =
      (rows.filter p).map store.load := by
    intro rows hin
    induction rows with
    | nil => rfl
    | cons assignment rest ih =>
      obtain ⟨role, hstored, hid, _⟩ := h.in_scope assignment (hin assignment List.mem_cons_self)
      have hrole : store.role? assignment.role = some role := Table.find_iff.mpr ⟨hstored, hid⟩
      have hrest := ih fun other ho => hin other (List.mem_cons_of_mem _ ho)
      rw [List.flatMap_cons, List.filter_append, List.map_append, hrest, hrole]
      cases hp : p assignment with
      | true => simp [hp, Grant.ofHeld, Store.load, hrole]
      | false => simp [hp]
  exact hrows _ fun _ hin => hin

end Rbac

namespace Rbac.Sql

def joinedRow (held : Assignment × Role) : AssignmentRow × RoleRow :=
  (.ofAssignment held.1, .ofRole held.2)

theorem Repository.read_grants {held : List (Assignment × Role)} {permissions : List Permission}
    (howned : ∀ pair ∈ held, ownedBy permissions pair.1.role = pair.2.permissions) :
    ((held.map joinedRow).mapM fun (row, roleRow) => do
        let assignment ← row.toAssignment
        let role ← roleRow.toRole (ownedBy permissions row.role)
        return (⟨assignment, some role⟩ : Grant)) = .ok (held.map Grant.ofHeld) := by
  rw [List.mapM_map]
  apply mapM_eq_ok
  rintro ⟨assignment, role⟩ hin
  have hread : (RoleRow.ofRole role).toRole
      (ownedBy permissions (AssignmentRow.ofAssignment assignment).role) = .ok role := by
    have hown : ownedBy permissions (AssignmentRow.ofAssignment assignment).role =
        role.permissions := howned _ hin
    rw [hown]
    exact RoleRow.toRole_ofRole role
  simp only [Function.comp_apply, joinedRow, AssignmentRow.toAssignment_ofAssignment, hread]
  rfl

namespace Mirrors

variable {tables : Tables} {store : Store} {clocks : List Clock}

theorem joined_perm (h : Mirrors tables store) : tables.joined.Perm (store.held.map joinedRow) := by
  have hrow : ∀ row : AssignmentRow,
      ((tables.roles.filter fun role => role.id = row.role).map fun role => (row, role)) =
        (store.role? row.role).toList.map fun role => (row, .ofRole role) := by
    intro row
    rw [h.roles_with_id row.role, List.map_map]
    rfl
  rw [Tables.joined]
  simp only [hrow]
  apply (h.assignments.flatMap_right _).trans
  apply List.Perm.of_eq
  rw [List.flatMap_map, Store.held, List.map_flatMap]
  apply congrFun (congrArg List.flatMap _)
  funext assignment
  rw [List.map_map]
  rfl

theorem perform_loadGrants (h : Mirrors tables store) (hkept : Orderly clocks store)
    (engine : Engine) (supply : Supply) {p : AssignmentRow → Bool}
    {rows : List (AssignmentRow × RoleRow)}
    (hrows : rows.Perm (tables.joined.filter fun row => p row.1)) :
    ∃ held : List (Assignment × Role), rows = held.map joinedRow ∧
      (held.map Grant.ofHeld).Perm ((store.assignments.rows.filter
        fun assignment => p (.ofAssignment assignment)).map store.load) ∧
      (Repository.loadGrants rows).perform engine tables supply =
        (.ok (held.map Grant.ofHeld), tables, supply) := by
  have hjoined : rows.Perm ((store.held.filter
      fun held => p (.ofAssignment held.1)).map joinedRow) := by
    have hfilter := h.joined_perm.filter fun row => p row.1
    rw [List.filter_map] at hfilter
    exact hrows.trans hfilter
  obtain ⟨held, rfl, hheld⟩ := exists_map_of_perm hjoined
  obtain ⟨permissions, hperform, howned⟩ :=
    h.perform_permissionsOf hkept engine supply
      ((held.map joinedRow).map (·.1.role)).eraseDups
  refine ⟨held, rfl, ?_, ?_⟩
  · rw [← Store.load_held hkept.integrity]
    exact hheld.map _
  · refine (Session.perform_bind _ hperform).trans ?_
    have hown : ∀ pair ∈ held,
        Repository.ownedBy permissions pair.1.role = pair.2.permissions := by
      intro pair hin
      have hstored := Store.mem_held.mp (List.mem_filter.mp (hheld.mem_iff.mp hin)).1
      obtain ⟨hrole, hid⟩ := Table.find_iff.mp hstored.2
      have hmem : pair.2.id ∈ ((held.map joinedRow).map (·.1.role)).eraseDups := by
        rw [List.mem_eraseDups, List.mem_map]
        exact ⟨_, List.mem_map_of_mem hin, hid.symm⟩
      rw [← hid]
      exact howned pair.2 hrole hmem
    exact congrArg (fun result => (Session.ofExcept result).perform engine tables supply)
      (Repository.read_grants hown)

theorem perform_loadGrants_short (h : Mirrors tables store) (hkept : Orderly clocks store)
    (engine : Engine) (supply : Supply) {p : AssignmentRow → Bool}
    {rows : List (AssignmentRow × RoleRow)}
    (hrows : rows.Perm (tables.joined.filter fun row => p row.1)) {asked : List Assignment}
    (hasked : store.assignments.rows.filter (fun assignment => p (.ofAssignment assignment)) =
      asked)
    (hshort : asked.length ≤ 1) :
    (Repository.loadGrants rows).perform engine tables supply =
      (.ok (asked.map store.load), tables, supply) := by
  obtain ⟨held, _, hheld, hload⟩ :=
    h.perform_loadGrants hkept engine supply hrows
  have hgrants : held.map Grant.ofHeld = asked.map store.load := by
    rw [hasked] at hheld
    apply eq_of_perm_short hheld
    rwa [List.length_map]
  rw [hload, hgrants]

theorem perform_findAssignment (h : Mirrors tables store) (hkept : Orderly clocks store)
    (engine : Engine) (supply : Supply) (id : Uuid) :
    (Repository.findAssignment id).perform engine tables supply =
      (.ok (store.grant? id), tables, supply) := by
  have hrows : (engine.select tables (.selectAssignment id)).Perm
      (tables.joined.filter fun row => row.1.id = id) := engine.select_perm rfl tables
  have hshort : (store.assignments.find? id).toList.length ≤ 1 := by
    cases store.assignments.find? id with
    | none => simp
    | some assignment => simp
  have hload := h.perform_loadGrants_short hkept engine supply
    (p := fun row => row.id = id) hrows (store.assignments.filter_key id) hshort
  refine (Session.perform_bind _ (Session.perform_query rfl)).trans ?_
  refine (Session.perform_bind _ hload).trans ?_
  rw [Store.grant?]
  cases store.assignments.find? id with
  | none => rfl
  | some assignment => rfl

theorem perform_grantOf (h : Mirrors tables store) (hkept : Orderly clocks store)
    (engine : Engine) (supply : Supply) (role user scopeId : Uuid) :
    (Repository.grantOf role user scopeId).perform engine tables supply =
      (.ok (store.grantOf? role user scopeId), tables, supply) := by
  have hrows : (engine.select tables (.selectAssignmentOf role user scopeId)).Perm
      (tables.joined.filter fun row =>
        row.1.role = role ∧ row.1.user = user ∧ row.1.scopeId = scopeId) :=
    engine.select_perm rfl tables
  have hasked : store.assignments.rows.filter (fun assignment =>
      assignment.role = role ∧ assignment.user = user ∧ assignment.scope.id = scopeId) =
      store.assignments.rows.filter (·.isFor role user scopeId) := by
    apply List.filter_congr
    intro assignment _
    rw [Bool.eq_iff_iff]
    simp [Assignment.isFor, and_assoc]
  have hload := h.perform_loadGrants_short hkept engine supply
    (p := fun row => row.role = role ∧ row.user = user ∧ row.scopeId = scopeId) hrows hasked
    (hkept.integrity.at_most_one role user scopeId)
  have hfirst : ((store.assignments.rows.filter (·.isFor role user scopeId)).map store.load).head? =
      store.grantOf? role user scopeId := by
    rw [List.head?_map, List.head?_filter]
    rfl
  refine (Session.perform_bind _ (Session.perform_query rfl)).trans ?_
  refine (Session.perform_bind _ hload).trans ?_
  rw [hfirst]
  rfl

theorem perform_grantsOf (h : Mirrors tables store) (hkept : Orderly clocks store)
    (engine : Engine) (supply : Supply) (user scopeId : Uuid) :
    (Repository.grantsOf user scopeId).perform engine tables supply =
      (.ok (store.grantsOf user scopeId), tables, supply) := by
  have hrows : (engine.select tables (.selectAssignmentsOf user scopeId)).Perm
      (tables.joined.filter fun row => row.1.user = user ∧ row.1.scopeId = scopeId) :=
    engine.select_perm rfl tables
  obtain ⟨held, hselected, hheld, hload⟩ :=
    h.perform_loadGrants hkept engine supply
      (p := fun row => row.user = user ∧ row.scopeId = scopeId) hrows
  have htrans : ∀ a b c : AssignmentRow × RoleRow, a.1.assignedAt.le b.1.assignedAt = true →
      b.1.assignedAt.le c.1.assignedAt = true → a.1.assignedAt.le c.1.assignedAt = true :=
    fun _ _ _ => Instant.le_trans
  have htotal : ∀ a b : AssignmentRow × RoleRow,
      (a.1.assignedAt.le b.1.assignedAt || b.1.assignedAt.le a.1.assignedAt) = true :=
    fun _ _ => Instant.le_total _ _
  have hsorted : (held.map Grant.ofHeld).Pairwise fun a b =>
      a.assignment.assignedAt.le b.assignment.assignedAt = true := by
    have hrowsSorted : (held.map joinedRow).Pairwise fun a b =>
        a.1.assignedAt.le b.1.assignedAt = true := by
      rw [← hselected]
      exact List.pairwise_mergeSort htrans htotal _
    rw [List.pairwise_map] at hrowsSorted ⊢
    exact hrowsSorted
  have hstrict : (store.assignments.rows.filter fun assignment =>
      assignment.user = user ∧ assignment.scope.id = scopeId).Pairwise fun a b =>
        a.assignedAt.le b.assignedAt = true ∧ b.assignedAt.le a.assignedAt = false := by
    apply (hkept.chronological.assignments.sublist List.filter_sublist).imp
    intro a b hlt
    simp only [Instant.le, decide_eq_true_eq, decide_eq_false_iff_not]
    omega
  have hgrants : held.map Grant.ofHeld = (store.assignments.rows.filter fun assignment =>
      assignment.user = user ∧ assignment.scope.id = scopeId).map store.load :=
    eq_of_perm_of_strict hheld hsorted (List.pairwise_map.mpr hstrict)
  have hmemory : store.grantsOf user scopeId = held.map Grant.ofHeld := by
    rw [hgrants, ← List.mergeSort_of_pairwise (hstrict.imp fun h => h.1)]
    simp only [Store.grantsOf, Bool.decide_and]
  refine (Session.perform_bind _ (Session.perform_query rfl)).trans ?_
  rw [hmemory]
  exact hload

end Mirrors
end Rbac.Sql
