import Mathlib.Data.List.Pairwise
import Mathlib.Data.List.Perm.Basic
import Rbac.Proofs.Chronology
import Rbac.Proofs.Database.Meaning
import Rbac.Proofs.RoleIntegrity
import Rbac.Proofs.Spellings

namespace Rbac

theorem ScopeType.text_inj {a b : ScopeType} : a.text = b.text ↔ a = b := by
  cases a <;> cases b <;> simp [text]

theorem Scope.columns_iff {a b : Scope} :
    (a.id = b.id ∧ Text.ofString a.type.text = Text.ofString b.type.text) ↔ a = b := by
  obtain ⟨type, id⟩ := a
  obtain ⟨other, otherId⟩ := b
  simp [ScopeType.text_inj, and_comm]

end Rbac

namespace Rbac.Sql

variable {α β : Type}

theorem exists_map_of_perm {f : α → β} {rows : List β} {values : List α}
    (h : rows.Perm (values.map f)) :
    ∃ others : List α, rows = others.map f ∧ others.Perm values := by
  have hcomp : Relation.Comp (fun rows (others : List α) => rows = others.map f)
      (fun others values => others.Perm values) rows values := by
    rw [List.eq_map_comp_perm f]
    exact h
  exact hcomp

/-- Rows that a strict order tells apart have only one order. -/
theorem eq_of_perm_of_strict {le : α → α → Bool} {rows values : List α} (hperm : rows.Perm values)
    (hsorted : rows.Pairwise fun a b => le a b = true)
    (hstrict : values.Pairwise fun a b => le a b = true ∧ le b a = false) : rows = values := by
  have hsame : ∀ a ∈ values, ∀ b ∈ values, le a b = true → le b a = true → a = b := by
    have hsymm : Std.Symm fun a b => le a b = true → le b a = true → a = b :=
      ⟨fun a b hab hle hge => (hab hge hle).symm⟩
    have hpairs : values.Pairwise fun a b => le a b = true → le b a = true → a = b := by
      apply hstrict.imp
      intro a b ⟨_, hne⟩ _ hge
      rw [hne] at hge
      cases hge
    intro a ha b hb
    exact hpairs.forall_of_forall (fun _ _ _ _ => rfl) ha hb
  apply hperm.eq_of_pairwise _ hsorted (hstrict.imp fun h => h.1)
  intro a b ha hb
  exact hsame a (hperm.mem_iff.mp ha) b hb

theorem eq_of_perm_short {rows values : List α} (hperm : rows.Perm values)
    (hshort : values.length ≤ 1) : rows = values := by
  match values with
  | [] => exact hperm.eq_nil
  | [value] => exact List.perm_singleton.mp hperm

theorem toList_map_short (found : Option α) (f : α → β) : (found.toList.map f).length ≤ 1 := by
  cases found with
  | none => simp
  | some value => simp

theorem not_isEmpty_filter (rows : List α) (p : α → Bool) :
    (!(rows.filter p).isEmpty) = rows.any p := by
  rw [Bool.eq_iff_iff, List.any_eq_true]
  simp

theorem mapM_eq_ok {γ : Type} {f : α → Except γ β} {g : α → β} {values : List α}
    (h : ∀ value ∈ values, f value = .ok (g value)) : values.mapM f = .ok (values.map g) := by
  induction values with
  | nil => rfl
  | cons value rest ih =>
    have hrest := ih fun other ho => h other (List.mem_cons_of_mem _ ho)
    rw [List.mapM_cons, h value List.mem_cons_self, hrest]
    rfl

theorem scopeOf_text (scope : Scope) : scopeOf scope.type.text scope.id = .ok scope := by
  have hread := ScopeType.read?_text scope.type
  unfold scopeOf
  rw [hread]

theorem RoleRow.toRole_ofRole (role : Role) :
    (RoleRow.ofRole role).toRole role.permissions = .ok role := by
  simp only [toRole, ofRole, scopeOf_text]
  rfl

theorem RoleRow.toRole_ok {row : RoleRow} {permissions : List Permission} {role : Role}
    (h : row.toRole permissions = .ok role) :
    role.id = row.id ∧ role.permissions = permissions := by
  unfold toRole at h
  generalize scopeOf row.scopeType row.scopeId = read at h
  cases read with
  | error failure => cases h
  | ok scope =>
    cases h
    exact ⟨rfl, rfl⟩

theorem Repository.read_roles {roles : List Role} {permissions : List Permission}
    (howned : ∀ role ∈ roles, ownedBy permissions role.id = role.permissions) :
    (roles.map RoleRow.ofRole).mapM (fun row => row.toRole (ownedBy permissions row.id)) =
      .ok roles := by
  have hread : ∀ role ∈ roles,
      (RoleRow.ofRole role).toRole (ownedBy permissions role.id) = .ok (id role) := by
    intro role hrole
    rw [howned role hrole]
    exact RoleRow.toRole_ofRole role
  rw [List.mapM_map]
  refine (mapM_eq_ok hread).trans ?_
  rw [List.map_id]

theorem AssignmentRow.toAssignment_ofAssignment (assignment : Assignment) :
    (AssignmentRow.ofAssignment assignment).toAssignment = .ok assignment := by
  simp only [toAssignment, ofAssignment, scopeOf_text]
  rfl

/-- The tables hold what the store holds, in whatever order. -/
structure Mirrors (tables : Tables) (store : Store) : Prop where
  roles : tables.roles.Perm (store.roles.rows.map .ofRole)
  permissions : tables.permissions.Perm (store.roles.rows.flatMap (·.permissions))
  assignments : tables.assignments.Perm (store.assignments.rows.map .ofAssignment)

/-- What the records of a run keep. -/
structure Orderly (clocks : List Clock) (store : Store) : Prop where
  integrity : Integrity store
  roles : RoleIntegrity store
  chronological : Chronological clocks store

def Statement.limited : Statement → Bool
  | .findRoleName .. | .findAssignment .. => true
  | _ => false

theorem Engine.select_perm {statement : Statement} (h : statement.limited = false)
    (engine : Engine) (tables : Tables) :
    (engine.select tables statement).Perm (tables.matching statement) := by
  have harranged := engine.arrange_perm tables statement (tables.matching statement)
  cases statement with
  | findRoleName => cases h
  | findAssignment => cases h
  | selectRolesIn scope => exact (List.mergeSort_perm _ _).trans harranged
  | selectPermissions roles => exact (List.mergeSort_perm _ _).trans harranged
  | selectAssignmentsOf user scopeId => exact (List.mergeSort_perm _ _).trans harranged
  | _ => exact harranged

theorem Engine.select_isEmpty (engine : Engine) (tables : Tables) (statement : Statement) :
    (engine.select tables statement).isEmpty = (tables.matching statement).isEmpty := by
  have hfirst : ∀ {γ : Type} (rows : List γ), (rows.take 1).isEmpty = rows.isEmpty := by
    intro γ rows
    cases rows with
    | nil => rfl
    | cons row rest => rfl
  have harranged := (engine.arrange_perm tables statement (tables.matching statement)).isEmpty_eq
  cases statement with
  | findRoleName name scope except => exact (hfirst _).trans harranged
  | findAssignment role user scopeId => exact (hfirst _).trans harranged
  | _ => exact (engine.select_perm rfl tables).isEmpty_eq

namespace Mirrors

variable {tables : Tables} {store : Store} {clocks : List Clock}

theorem roles_filter (h : Mirrors tables store) (p : RoleRow → Bool) :
    (tables.roles.filter p).Perm
      ((store.roles.rows.filter fun role => p (.ofRole role)).map .ofRole) := by
  have hfilter := h.roles.filter p
  rwa [List.filter_map] at hfilter

theorem assignments_filter (h : Mirrors tables store) (p : AssignmentRow → Bool) :
    (tables.assignments.filter p).Perm
      ((store.assignments.rows.filter fun assignment => p (.ofAssignment assignment)).map
        .ofAssignment) := by
  have hfilter := h.assignments.filter p
  rwa [List.filter_map] at hfilter

theorem roles_with_id (h : Mirrors tables store) (id : Uuid) :
    tables.roles.filter (fun row => row.id = id) = (store.role? id).toList.map .ofRole := by
  have hrows := h.roles_filter fun row => row.id = id
  have hkey := store.roles.filter_key id
  change (store.roles.rows.filter fun role => role.id = id) = (store.role? id).toList at hkey
  change (tables.roles.filter _).Perm
    ((store.roles.rows.filter fun role => role.id = id).map .ofRole) at hrows
  rw [hkey] at hrows
  exact eq_of_perm_short hrows (toList_map_short _ _)

end Mirrors

theorem permissionLe_trans (a b c : Permission) (hab : permissionLe a b = true)
    (hbc : permissionLe b c = true) : permissionLe a c = true := by
  simp only [permissionLe, Bool.or_eq_true, Bool.and_eq_true, decide_eq_true_eq] at *
  omega

theorem permissionLe_total (a b : Permission) :
    (permissionLe a b || permissionLe b a) = true := by
  simp only [permissionLe, Bool.or_eq_true, Bool.and_eq_true, decide_eq_true_eq]
  omega

theorem permissionLe_of_precedes {a b : Permission} (h : a.Precedes b) :
    permissionLe a b = true ∧ permissionLe b a = false := by
  simp only [Permission.Precedes] at h
  simp only [permissionLe, Bool.or_eq_true, Bool.and_eq_true, decide_eq_true_eq,
    Bool.or_eq_false_iff, Bool.and_eq_false_iff, decide_eq_false_iff_not]
  omega

theorem eq_mergeSort_of_perm {rows values : List Permission} (hperm : rows.Perm values)
    (hsorted : rows.Pairwise fun a b => permissionLe a b = true)
    (hids : (values.map (·.id)).Nodup) : rows = values.mergeSort permissionLe := by
  apply (hperm.trans (List.mergeSort_perm values permissionLe).symm).eq_of_pairwise _ hsorted
    (List.pairwise_mergeSort permissionLe_trans permissionLe_total values)
  intro a b ha hb hab hba
  apply List.inj_on_of_nodup_map hids (hperm.mem_iff.mp ha)
    ((List.mergeSort_perm values permissionLe).mem_iff.mp hb)
  simp only [permissionLe, Bool.or_eq_true, Bool.and_eq_true, decide_eq_true_eq] at hab hba
  exact Uuid.value_injective (by omega)

theorem mergeSort_of_precedes {permissions : List Permission}
    (h : permissions.Pairwise Permission.Precedes) :
    permissions.mergeSort permissionLe = permissions :=
  List.mergeSort_of_pairwise (h.imp fun hab => (permissionLe_of_precedes hab).1)

theorem flatMap_filter_owner {rows : List Role} (picked : Uuid → Bool)
    (howned : ∀ role ∈ rows, ∀ permission ∈ role.permissions, permission.role = role.id) :
    (rows.flatMap (·.permissions)).filter (fun permission => picked permission.role) =
      (rows.filter fun role => picked role.id).flatMap (·.permissions) := by
  induction rows with
  | nil => rfl
  | cons role rest ih =>
    have hrest := ih fun other ho => howned other (List.mem_cons_of_mem _ ho)
    have hrole := howned role List.mem_cons_self
    have hown : role.permissions.filter (fun permission => picked permission.role) =
        role.permissions.filter fun _ => picked role.id := by
      apply List.filter_congr
      intro permission hp
      rw [hrole permission hp]
    rw [List.flatMap_cons, List.filter_append, hrest, hown, List.filter_cons]
    cases picked role.id with
    | true => simp
    | false => simp

theorem filter_owned {store : Store} (hroles : RoleIntegrity store) {role : Role}
    (hrole : role ∈ store.roles.rows) :
    (store.roles.rows.flatMap (·.permissions)).filter
        (fun permission => permission.role = role.id) = role.permissions := by
  have hfound : store.roles.find? role.id = some role := Table.find_iff.mpr ⟨hrole, rfl⟩
  have hpicked := flatMap_filter_owner (fun id => id = role.id) fun other ho =>
    (hroles.tidy other ho).owned
  rw [hpicked, store.roles.filter_key role.id, hfound]
  simp

theorem ownedBy_perm {rows stored : List Permission} {ids : List Uuid} {role : Uuid}
    (h : rows.Perm (stored.filter fun permission => permission.role ∈ ids)) (hrole : role ∈ ids) :
    (Repository.ownedBy rows role).Perm
      (stored.filter fun permission => permission.role = role) := by
  apply (h.filter _).trans
  rw [List.filter_filter]
  apply List.Perm.of_eq
  apply List.filter_congr
  intro permission _
  by_cases howner : permission.role = role
  · simp [howner, hrole]
  · simp [howner]

theorem ownedBy_sorted (engine : Engine) {tables : Tables} {ids : List Uuid} {role : Uuid}
    {own : List Permission} (hrole : role ∈ ids)
    (hstored : (tables.permissions.filter fun permission => permission.role = role).Perm own)
    (hids : (own.map (·.id)).Nodup) :
    Repository.ownedBy (engine.select tables (.selectPermissions ids)) role =
      own.mergeSort permissionLe := by
  have hselected : (engine.select tables (.selectPermissions ids)).Perm
      (tables.permissions.filter fun permission => permission.role ∈ ids) :=
    engine.select_perm rfl tables
  have hsorted : (engine.select tables (.selectPermissions ids)).Pairwise
      fun a b => permissionLe a b = true :=
    List.pairwise_mergeSort permissionLe_trans permissionLe_total _
  exact eq_mergeSort_of_perm ((ownedBy_perm hselected hrole).trans hstored)
    (hsorted.sublist List.filter_sublist) hids

namespace Mirrors

variable {tables : Tables} {store : Store} {clocks : List Clock}

/-- The permissions that are loaded for a role are its own, in their order. -/
theorem ownedBy_select (h : Mirrors tables store) (hkept : Orderly clocks store)
    (engine : Engine) {ids : List Uuid} {role : Role} (hrole : role ∈ store.roles.rows)
    (hid : role.id ∈ ids) :
    Repository.ownedBy (engine.select tables (.selectPermissions ids)) role.id =
      role.permissions := by
  have hstored : (tables.permissions.filter fun permission => permission.role = role.id).Perm
      role.permissions := by
    rw [← filter_owned hkept.roles hrole]
    exact h.permissions.filter _
  rw [ownedBy_sorted engine hid hstored (hkept.roles.tidy role hrole).ids_distinct]
  exact mergeSort_of_precedes (hkept.chronological.permissions role hrole)

theorem perform_permissionsOf (h : Mirrors tables store) (hkept : Orderly clocks store)
    (engine : Engine) (supply : Supply) (ids : List Uuid) :
    ∃ permissions, (Repository.permissionsOf ids).perform engine tables supply =
        (.ok permissions, tables, supply) ∧
      ∀ role ∈ store.roles.rows, role.id ∈ ids →
        Repository.ownedBy permissions role.id = role.permissions := by
  cases ids with
  | nil => exact ⟨[], rfl, fun _ _ hin => by cases hin⟩
  | cons id rest =>
    refine ⟨_, Session.perform_query rfl, ?_⟩
    intro role hrole hid
    exact h.ownedBy_select hkept engine hrole hid

theorem perform_findRole (h : Mirrors tables store) (hkept : Orderly clocks store)
    (engine : Engine) (supply : Supply) (id : Uuid) :
    (Repository.findRole id).perform engine tables supply =
      (.ok (store.role? id), tables, supply) := by
  have hrows : engine.select tables (.selectRole id) =
      (store.role? id).toList.map RoleRow.ofRole := by
    apply eq_of_perm_short _ (toList_map_short _ _)
    exact (engine.select_perm rfl tables).trans (.of_eq (h.roles_with_id id))
  have hfetched : (Statement.selectRole id).fetched (engine.select tables (.selectRole id)) =
      (store.role? id).toList.map RoleRow.ofRole := by
    refine (Statement.fetched_short ?_).trans hrows
    rw [hrows]
    exact toList_map_short _ _
  refine (Session.perform_read _ hfetched rfl).trans ?_
  cases hfound : store.role? id with
  | none => rfl
  | some role =>
    obtain ⟨hrole, rfl⟩ := Table.find_iff.mp hfound
    obtain ⟨permissions, hperform, howned⟩ :=
      h.perform_permissionsOf hkept engine supply [role.id]
    have hread : (RoleRow.ofRole role).toRole (Repository.ownedBy permissions role.id) =
        .ok role := by
      rw [howned role hrole (List.mem_singleton_self _)]
      exact RoleRow.toRole_ofRole role
    refine (Session.perform_bind _ hperform).trans ?_
    change (Session.ofExcept ((RoleRow.ofRole role).toRole
      (Repository.ownedBy permissions role.id)) >>= _).perform engine tables supply = _
    rw [hread]
    rfl

theorem perform_rolesIn (h : Mirrors tables store) (hkept : Orderly clocks store)
    (engine : Engine) (supply : Supply) (scope : Scope) :
    ∃ roles, (Repository.rolesIn scope).perform engine tables supply =
        (.ok roles, tables, supply) ∧ roles.Perm (store.rolesIn scope) := by
  have hmatching : (engine.select tables (.selectRolesIn scope)).Perm
      ((store.rolesIn scope).map RoleRow.ofRole) := by
    apply (engine.select_perm rfl tables).trans
    apply (h.roles_filter _).trans
    apply List.Perm.of_eq
    apply congrArg (List.map RoleRow.ofRole)
    apply List.filter_congr
    intro role _
    simp only [RoleRow.ofRole, Scope.columns_iff]
  obtain ⟨roles, hrows, hroles'⟩ := exists_map_of_perm hmatching
  obtain ⟨permissions, hperform, howned⟩ :=
    h.perform_permissionsOf hkept engine supply ((roles.map RoleRow.ofRole).map (·.id))
  refine ⟨roles, ?_, hroles'⟩
  have hfetched : (Statement.selectRolesIn scope).fetched
      (engine.select tables (.selectRolesIn scope)) = roles.map RoleRow.ofRole := hrows
  refine (Session.perform_read _ hfetched rfl).trans ?_
  refine (Session.perform_bind _ hperform).trans ?_
  have hread : ∀ role ∈ roles, Repository.ownedBy permissions role.id = role.permissions := by
    intro role hrole
    have hstored : role ∈ store.roles.rows := (List.mem_filter.mp (hroles'.mem_iff.mp hrole)).1
    exact howned role hstored (by simpa [RoleRow.ofRole] using ⟨role, hrole, rfl⟩)
  change (Session.ofExcept ((roles.map RoleRow.ofRole).mapM
    fun row => row.toRole (Repository.ownedBy permissions row.id))).perform engine tables supply = _
  rw [Repository.read_roles hread]
  rfl

theorem perform_nameTaken (h : Mirrors tables store) (engine : Engine) (supply : Supply)
    (name : Text) (scope : Scope) (except : Option Uuid) :
    (Repository.nameTaken name scope except).perform engine tables supply =
      (.ok (store.nameTaken name scope except), tables, supply) := by
  have htaken : (!(engine.select tables (.findRoleName name scope except)).isEmpty) =
      store.nameTaken name scope except := by
    rw [engine.select_isEmpty]
    change (!((tables.roles.filter _).map fun _ => ()).isEmpty) = _
    rw [List.isEmpty_map, (h.roles_filter _).isEmpty_eq, List.isEmpty_map, not_isEmpty_filter]
    apply congrArg store.roles.rows.any
    funext role
    have hscope := @Scope.columns_iff role.scope scope
    rw [Bool.eq_iff_iff]
    simp only [RoleRow.ofRole, Bool.and_eq_true, decide_eq_true_eq, ← hscope, and_assoc]
    exact decide_eq_true_iff
  refine (Session.perform_bind _ (Session.perform_query rfl)).trans ?_
  rw [← htaken]
  rfl

theorem perform_isAssigned (h : Mirrors tables store) (engine : Engine) (supply : Supply)
    (role user scopeId : Uuid) :
    (Repository.isAssigned role user scopeId).perform engine tables supply =
      (.ok (store.isAssigned role user scopeId), tables, supply) := by
  have hassigned : (!(engine.select tables (.findAssignment role user scopeId)).isEmpty) =
      store.isAssigned role user scopeId := by
    rw [engine.select_isEmpty]
    change (!((tables.assignments.filter _).map fun _ => ()).isEmpty) = _
    rw [List.isEmpty_map, (h.assignments_filter _).isEmpty_eq, List.isEmpty_map,
      not_isEmpty_filter]
    apply congrArg store.assignments.rows.any
    funext assignment
    rw [Bool.eq_iff_iff]
    simp only [AssignmentRow.ofAssignment, Assignment.isFor, Bool.and_eq_true, beq_iff_eq,
      and_assoc]
    exact decide_eq_true_iff
  refine (Session.perform_bind _ (Session.perform_query rfl)).trans ?_
  rw [← hassigned]
  rfl

theorem perform_countByRole (h : Mirrors tables store) (engine : Engine) (supply : Supply)
    (role : Uuid) :
    (Repository.countByRole role).perform engine tables supply =
      (.ok (.int (store.countByRole role)), tables, supply) := by
  have hcount : tables.assignments.countP (fun row => row.role = role) =
      store.countByRole role := by
    rw [h.assignments.countP_eq, List.countP_map]
    rfl
  have hrows : engine.select tables (.countAssignments role) =
      [Cell.int (store.countByRole role)] := by
    rw [← hcount]
    exact List.perm_singleton.mp (engine.select_perm rfl tables)
  have hfetched : (Statement.countAssignments role).fetched
      (engine.select tables (.countAssignments role)) = [Cell.int (store.countByRole role)] := by
    refine (Statement.fetched_short ?_).trans hrows
    rw [hrows]
    exact Nat.le_refl 1
  exact Session.perform_read _ hfetched rfl

end Mirrors
end Rbac.Sql
