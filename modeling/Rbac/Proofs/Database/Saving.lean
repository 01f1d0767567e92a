import Rbac.Proofs.Database.Writing

namespace Rbac.Sql

namespace Mirrors

variable {tables : Tables} {store : Store}

theorem put_new_role (h : Mirrors tables store) {role : Role}
    (hnew : ∀ other ∈ store.roles.rows, other.id ≠ role.id) :
    Mirrors ⟨tables.roles ++ [.ofRole role], tables.permissions ++ role.permissions,
      tables.assignments⟩ (store.putRole role) := by
  have hrows : (store.putRole role).roles.rows = store.roles.rows ++ [role] :=
    Table.rows_put_of_fresh hnew
  refine ⟨?_, ?_, h.assignments⟩
  · rw [hrows, List.map_append]
    exact h.roles.append_right _
  · rw [hrows, List.flatMap_append, List.flatMap_singleton]
    exact h.permissions.append_right _

theorem put_assignment (h : Mirrors tables store) {assignment : Assignment}
    (hnew : ∀ other ∈ store.assignments.rows, other.id ≠ assignment.id) :
    Mirrors { tables with assignments := tables.assignments ++ [.ofAssignment assignment] }
      (store.putAssignment assignment) := by
  have hrows : (store.putAssignment assignment).assignments.rows =
      store.assignments.rows ++ [assignment] := Table.rows_put_of_fresh hnew
  refine ⟨h.roles, h.permissions, ?_⟩
  rw [hrows, List.map_append]
  exact h.assignments.append_right _

theorem erase_assignment (h : Mirrors tables store) (id : Uuid) :
    Mirrors { tables with assignments := tables.assignments.filter fun row => row.id ≠ id }
      (store.eraseAssignment id) :=
  ⟨h.roles, h.permissions, h.assignments_filter _⟩

theorem erase_role (h : Mirrors tables store) (hroles : RoleIntegrity store) (id : Uuid) :
    Mirrors ⟨tables.roles.filter fun row => row.id ≠ id,
      tables.permissions.filter fun permission => permission.role ≠ id, tables.assignments⟩
      (store.eraseRole id) := by
  refine ⟨h.roles_filter _, ?_, h.assignments⟩
  apply (h.permissions.filter _).trans
  apply List.Perm.of_eq
  exact flatMap_filter_owner (fun owner => owner ≠ id) fun role hrole =>
    (hroles.tidy role hrole).owned

/-- The role that is put in place of an older one keeps those stored permissions whose actions it
has, and gets new ones. -/
theorem put_changed_role (h : Mirrors tables store) (hroles : RoleIntegrity store)
    {old role : Role} {new : List Permission} (hold : old ∈ store.roles.rows)
    (hsame : RoleRow.ofRole role =
      (RoleRow.ofRole old).revise role.name role.description role.updatedAt)
    (hpermissions : role.permissions =
      old.permissions.filter (fun permission => permission.action ∈ role.actions) ++ new) :
    Mirrors ⟨tables.roles.map fun row =>
        if row.id = role.id then row.revise role.name role.description role.updatedAt else row,
      (tables.permissions.filter fun permission =>
        ¬(permission.role = role.id ∧ permission.action ∉ role.actions)) ++ new,
      tables.assignments⟩ (store.putRole role) := by
  have hid : role.id = old.id := congrArg RoleRow.id hsame
  obtain ⟨before, after, hrows, hothers⟩ := Table.exists_split hold
  have hput : (store.putRole role).roles.rows = before ++ role :: after :=
    Table.rows_put_of_split hrows hothers hid
  refine ⟨?_, ?_, h.assignments⟩
  · have hunchanged : ∀ rows : List Role, (∀ other ∈ rows, other.id ≠ old.id) →
        (rows.map RoleRow.ofRole).map (fun row => if row.id = role.id then
          row.revise role.name role.description role.updatedAt else row) =
        rows.map RoleRow.ofRole := by
      intro rows hne
      rw [List.map_map]
      apply List.map_congr_left
      intro other ho
      exact if_neg fun he => hne other ho (he.trans hid)
    have hfound : (RoleRow.ofRole old).id = role.id := hid.symm
    apply (h.roles.map _).trans
    apply List.Perm.of_eq
    rw [hrows, hput, List.map_append, List.map_append, List.map_cons, List.map_cons,
      hunchanged before fun other ho => hothers other (List.mem_append_left _ ho),
      hunchanged after fun other ho => hothers other (List.mem_append_right _ ho),
      List.map_append, List.map_cons, hsame, if_pos hfound]
  · have hothersKept : ∀ rows : List Role, (∀ other ∈ rows, other ∈ before ++ after) →
        (rows.flatMap (·.permissions)).filter (fun permission =>
          ¬(permission.role = role.id ∧ permission.action ∉ role.actions)) =
        rows.flatMap (·.permissions) := by
      intro rows hin
      apply List.filter_eq_self.mpr
      intro permission hp
      obtain ⟨other, ho, hown⟩ := List.mem_flatMap.mp hp
      have hne := hothers other (hin other ho)
      have hstored : other ∈ store.roles.rows := by
        have := hin other ho
        simp only [hrows, List.mem_append, List.mem_cons] at this ⊢
        tauto
      have howner := (hroles.tidy other hstored).owned permission hown
      simp [howner, hid, hne]
    have hown : old.permissions.filter (fun permission =>
        ¬(permission.role = role.id ∧ permission.action ∉ role.actions)) =
        old.permissions.filter fun permission => permission.action ∈ role.actions := by
      apply List.filter_congr
      intro permission hp
      have howner := (hroles.tidy old hold).owned permission hp
      simp [howner, hid]
    have hbefore := hothersKept before fun _ ho => List.mem_append_left _ ho
    have hafter := hothersKept after fun _ ho => List.mem_append_right _ ho
    generalize old.permissions.filter (fun permission => permission.action ∈ role.actions) = kept
      at hown hpermissions
    calc (tables.permissions.filter fun permission =>
          ¬(permission.role = role.id ∧ permission.action ∉ role.actions)) ++ new
      List.Perm _ (((store.roles.rows.flatMap (·.permissions)).filter fun permission =>
          ¬(permission.role = role.id ∧ permission.action ∉ role.actions)) ++ new) :=
        (h.permissions.filter _).append_right _
      _ = before.flatMap (·.permissions) ++ (kept ++ (after.flatMap (·.permissions) ++ new)) := by
        rw [hrows, List.flatMap_append, List.flatMap_cons, List.filter_append, List.filter_append,
          hbefore, hafter, hown, List.append_assoc, List.append_assoc]
      List.Perm _ (before.flatMap (·.permissions) ++
          (kept ++ (new ++ after.flatMap (·.permissions)))) :=
        (List.perm_append_comm.append_left _).append_left _
      _ = (store.putRole role).roles.rows.flatMap (·.permissions) := by
        rw [hput, List.flatMap_append, List.flatMap_cons, hpermissions, List.append_assoc]

theorem permission_owned (h : Mirrors tables store) (hroles : RoleIntegrity store) {role : Role}
    (hrole : role ∈ store.roles.rows) {permission : Permission}
    (hstored : permission ∈ tables.permissions) (howner : permission.role = role.id) :
    permission ∈ role.permissions := by
  obtain ⟨other, ho, hown⟩ := h.of_mem_permissions hstored
  have hsame : other = role :=
    Table.key_inj ho hrole (((hroles.tidy other ho).owned permission hown).symm.trans howner)
  exact hsame ▸ hown

end Mirrors

theorem permissions_distinct {role : Role} (h : role.Tidy) :
    role.permissions.Pairwise fun a b => a.id ≠ b.id ∧ (a.role = b.role → a.action ≠ b.action) := by
  have hids := List.pairwise_map.mp h.ids_distinct
  have hactions := List.pairwise_map.mp h.distinct
  exact (hids.and hactions).imp fun ⟨hid, haction⟩ => ⟨hid, fun _ => haction⟩

theorem perform_insertPermissions {engine : Engine} {supply : Supply} {tables after : Tables}
    {permissions : List Permission}
    (h : permissions.foldlM Tables.insertPermission tables = .ok after) :
    (Repository.insertPermissions permissions).perform engine tables supply =
      (.ok (), after, supply) := by
  cases permissions with
  | nil =>
    obtain rfl : tables = after := Except.ok.inj h
    rfl
  | cons permission rest => exact Session.perform_execute h

/-- What a role needs to be written: fields and actions that are short enough, and permissions of
its own. -/
structure Writable (role : Role) : Prop where
  fits : RoleFits role.name role.description
  actions : ∀ permission ∈ role.permissions,
    permission.action.length ≤ Validation.permissionLimit
  tidy : role.Tidy

def Tables.adding (tables : Tables) (role : Role) : Tables :=
  ⟨tables.roles ++ [.ofRole role], tables.permissions ++ role.permissions, tables.assignments⟩

/-- A role that clashes with no other is written with all its permissions, if the tables hold none
of them and none for it. -/
theorem perform_insertRole {tables : Tables} {role : Role} (hwritable : Writable role)
    (hroles : ∀ row ∈ tables.roles,
      Schema.roles.clash row.cells (RoleRow.ofRole role).cells = false)
    (hpermissions : ∀ other ∈ tables.permissions, other.role ≠ role.id ∧
      ∀ permission ∈ role.permissions, other.id ≠ permission.id)
    (engine : Engine) (supply : Supply) :
    (Repository.insertRole role).perform engine tables supply =
      (.ok (), tables.adding role, supply) := by
  have hinserted : role.permissions.foldlM Tables.insertPermission
      { tables with roles := tables.roles ++ [.ofRole role] } = .ok (tables.adding role) := by
    apply Tables.insertPermissions_new hwritable.actions _ _ (permissions_distinct hwritable.tidy)
    · intro permission hp
      exact ⟨_, List.mem_append_right _ (List.mem_singleton_self _),
        (hwritable.tidy.owned permission hp).symm⟩
    · intro permission hp other ho
      refine ⟨(hpermissions other ho).2 permission hp, ?_⟩
      intro hsame
      exact absurd (hsame.trans (hwritable.tidy.owned permission hp)) (hpermissions other ho).1
  refine (Session.perform_bind _ (Session.perform_executeUnique
    (Tables.insertRole_apart hwritable.fits hroles) _)).trans ?_
  exact perform_insertPermissions hinserted

namespace Mirrors

variable {tables : Tables} {store : Store}

theorem perform_insertRole (h : Mirrors tables store) (hroles : RoleIntegrity store) {role : Role}
    (hwritable : Writable role) (hfree : store.nameTaken role.name role.scope none = false)
    (hid : role.id ∉ store.ids) (hids : ∀ permission ∈ role.permissions, permission.id ∉ store.ids)
    (engine : Engine) (supply : Supply) :
    ∃ after, (Repository.insertRole role).perform engine tables supply = (.ok (), after, supply) ∧
      Mirrors after (store.putRole role) := by
  have hnew : ∀ other ∈ store.roles.rows, other.id ≠ role.id := by
    intro other ho he
    exact hid (he ▸ Store.role_id_mem ho)
  refine ⟨_, Sql.perform_insertRole hwritable (h.new_role_apart hnew hfree) ?_ engine supply,
    h.put_new_role hnew⟩
  intro other ho
  obtain ⟨owner, howner, hown⟩ := h.of_mem_permissions ho
  refine ⟨?_, ?_⟩
  · rw [(hroles.tidy owner howner).owned other hown]
    exact hnew owner howner
  · intro permission hp he
    exact hids permission hp (he ▸ Store.permission_id_mem howner hown)

/-- Of the permissions of a changed role those that it kept are in the table, and the new ones are
added. -/
theorem insertPermissions_changed (h : Mirrors tables store) (hroles : RoleIntegrity store)
    {old role : Role} {new : List Permission} (hold : old ∈ store.roles.rows)
    (hid : role.id = old.id)
    (hpermissions : role.permissions =
      old.permissions.filter (fun permission => permission.action ∈ role.actions) ++ new)
    (hwritable : Writable role) (hids : ∀ permission ∈ new, permission.id ∉ store.ids)
    {rows : List RoleRow} (hrow : ∃ row ∈ rows, row.id = role.id) :
    role.permissions.foldlM Tables.insertPermission ⟨rows, tables.permissions.filter
        fun permission => ¬(permission.role = role.id ∧ permission.action ∉ role.actions),
        tables.assignments⟩ =
      .ok ⟨rows, (tables.permissions.filter fun permission =>
        ¬(permission.role = role.id ∧ permission.action ∉ role.actions)) ++ new,
        tables.assignments⟩ := by
  have hdistinct := permissions_distinct hwritable.tidy
  have howned := hwritable.tidy.owned
  have hshort := hwritable.actions
  rw [hpermissions] at hdistinct howned hshort
  obtain ⟨_, hdistinctNew, hapart⟩ := List.pairwise_append.mp hdistinct
  rw [hpermissions, List.foldlM_append, Tables.insertPermissions_present
    (fun permission hp => hshort permission (List.mem_append_left _ hp)) ?_]
  · apply Tables.insertPermissions_new _ _ _ hdistinctNew
    · intro permission hp
      exact hshort permission (List.mem_append_right _ hp)
    · intro permission hp
      rw [howned permission (List.mem_append_right _ hp)]
      exact hrow
    · intro permission hp other ho
      obtain ⟨hstored, hkept⟩ := List.mem_filter.mp ho
      refine ⟨?_, ?_⟩
      · obtain ⟨owner, howner, hown⟩ := h.of_mem_permissions hstored
        intro he
        exact hids permission hp (he ▸ Store.permission_id_mem howner hown)
      · intro hsame
        have howner : other.role = role.id :=
          hsame.trans (howned permission (List.mem_append_right _ hp))
        have haction : other.action ∈ role.actions := by
          simpa [howner] using hkept
        have hown := h.permission_owned hroles hold hstored (howner.trans hid)
        exact (hapart other (List.mem_filter.mpr ⟨hown, decide_eq_true haction⟩) permission hp).2
          hsame
  · intro permission hp
    obtain ⟨hin, haction⟩ := List.mem_filter.mp hp
    have hstored : permission ∈ tables.permissions :=
      h.permissions.mem_iff.mpr (List.mem_flatMap.mpr ⟨old, hold, hin⟩)
    refine List.mem_filter.mpr ⟨hstored, decide_eq_true ?_⟩
    exact fun ⟨_, hgone⟩ => hgone (of_decide_eq_true haction)

theorem perform_saveRole (h : Mirrors tables store) (hroles : RoleIntegrity store)
    {old role : Role} {new : List Permission} (hold : old ∈ store.roles.rows)
    (hsame : RoleRow.ofRole role =
      (RoleRow.ofRole old).revise role.name role.description role.updatedAt)
    (hpermissions : role.permissions =
      old.permissions.filter (fun permission => permission.action ∈ role.actions) ++ new)
    (hwritable : Writable role)
    (hfree : store.nameTaken role.name role.scope (some role.id) = false)
    (hids : ∀ permission ∈ new, permission.id ∉ store.ids) (engine : Engine) (supply : Supply) :
    ∃ after, (Repository.saveRole role).perform engine tables supply = (.ok (), after, supply) ∧
      Mirrors after (store.putRole role) := by
  have hid : role.id = old.id := congrArg RoleRow.id hsame
  refine ⟨_, ?_, h.put_changed_role hroles hold hsame hpermissions⟩
  refine (Session.perform_bind _ (Session.perform_executeUnique
    (h.updateRole_ok hold hsame hwritable.fits hfree) _)).trans ?_
  refine (Session.perform_bind _ (Session.perform_execute rfl)).trans ?_
  apply perform_insertPermissions
  apply h.insertPermissions_changed hroles hold hid hpermissions hwritable hids
  have hrow : RoleRow.ofRole old ∈ tables.roles := h.roles.mem_iff.mpr (List.mem_map_of_mem hold)
  refine ⟨_, List.mem_map_of_mem hrow, ?_⟩
  have hfound : (RoleRow.ofRole old).id = role.id := hid.symm
  rw [if_pos hfound]
  exact hfound

end Mirrors
end Rbac.Sql
