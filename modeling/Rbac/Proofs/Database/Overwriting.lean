import Rbac.Proofs.Database.Exchanges
import Rbac.Proofs.Database.Refinement

namespace Rbac

def Permission.key (permission : Permission) : Uuid × Text :=
  (permission.role, permission.action)

/-- Permissions of which no two are of one role and one action. -/
def Keyed (permissions : List Permission) : Prop :=
  (permissions.map (·.key)).Nodup

namespace Keyed

variable {permissions : List Permission}

theorem same (h : Keyed permissions) {a b : Permission} (ha : a ∈ permissions)
    (hb : b ∈ permissions) (hkey : a.key = b.key) : a = b :=
  List.inj_on_of_nodup_map h ha hb hkey

theorem filter (h : Keyed permissions) (p : Permission → Bool) : Keyed (permissions.filter p) :=
  h.sublist (List.filter_sublist.map _)

theorem nodup (h : Keyed permissions) : permissions.Nodup :=
  List.Nodup.of_map _ h

theorem append_one (h : Keyed permissions) {permission : Permission}
    (hnew : permission.key ∉ permissions.map (·.key)) : Keyed (permissions ++ [permission]) := by
  rw [Keyed, List.map_append, List.map_singleton, ← List.concat_eq_append]
  exact List.Nodup.concat hnew h

end Keyed

end Rbac

namespace Rbac.Sql

/-- A permission is added unless its role has the action. -/
def addMissing (rows : List Permission) (permission : Permission) : List Permission :=
  if permission.key ∈ rows.map (·.key) then rows else rows ++ [permission]

/-- What a statement makes of the stored permissions, if it is not refused. -/
def Statement.onPermissions : Statement → List Permission → List Permission
  | .insertPermissions permissions, rows => permissions.foldl addMissing rows
  | .trimPermissions role actions, rows =>
    rows.filter fun permission => ¬(permission.role = role ∧ permission.action ∉ actions)
  | .deleteRole id, rows => rows.filter fun permission => permission.role ≠ id
  | _, rows => rows

def permissionsAfter (statements : List Statement) (rows : List Permission) : List Permission :=
  statements.foldl (fun rows statement => statement.onPermissions rows) rows

theorem Tables.insertPermission_permissions {tables after : Tables} {permission : Permission}
    (h : tables.insertPermission permission = .ok after) :
    after.permissions = addMissing tables.permissions permission := by
  have hagree : ((tables.rows Schema.permissions.name).any fun other =>
      Schema.permissions.agree ["role_id", "action"] other (permissionCells permission)) = true ↔
      permission.key ∈ tables.permissions.map (·.key) := by
    change ((tables.permissions.map permissionCells).any _) = true ↔ _
    simp [Schema.permissions_agree, Permission.key]
  rw [insertPermission] at h
  split at h
  · rename_i hthere
    cases h
    rw [addMissing, if_pos (hagree.mp hthere.2)]
  · rename_i hnot
    cases hrefusal : tables.refusal? Schema.permissions (tables.rows Schema.permissions.name)
        (permissionCells permission) with
    | some raised =>
      rw [hrefusal] at h
      cases h
    | none =>
      rw [hrefusal] at h
      cases h
      have hfits : Schema.permissions.fits (permissionCells permission) = true := by
        by_contra hunfit
        rw [refusal?, if_pos (by simpa using hunfit)] at hrefusal
        cases hrefusal
      rw [addMissing, if_neg fun hthere => hnot ⟨hfits, hagree.mpr hthere⟩]

theorem Tables.insertPermissions_permissions {tables after : Tables}
    {permissions : List Permission}
    (h : permissions.foldlM Tables.insertPermission tables = .ok after) :
    after.permissions = permissions.foldl addMissing tables.permissions := by
  induction permissions generalizing tables with
  | nil =>
    cases h
    rfl
  | cons permission rest ih =>
    rw [List.foldlM_cons] at h
    cases hfirst : tables.insertPermission permission with
    | error raised =>
      rw [hfirst] at h
      cases h
    | ok middle =>
      rw [hfirst] at h
      rw [List.foldl_cons, ← Tables.insertPermission_permissions hfirst]
      exact ih h

theorem Tables.change_permissions {tables after : Tables} {statement : Statement}
    (h : tables.change statement = .ok after) :
    after.permissions = statement.onPermissions tables.permissions := by
  cases statement with
  | insertRole row =>
    simp only [change, insertRole] at h
    split at h
    · cases h
    · cases h
      rfl
  | updateRole id name description updatedAt =>
    simp only [change, updateRole] at h
    split at h
    · cases h
    · cases h
      rfl
  | deleteRole id =>
    simp only [change, deleteRole, Mirrors.permissions_cascade] at h
    split at h
    · cases h
    · cases h
      simp [Statement.onPermissions]
  | insertPermissions permissions => exact insertPermissions_permissions h
  | insertAssignment row =>
    simp only [change, insertAssignment] at h
    split at h
    · cases h
    · cases h
      rfl
  | _ =>
    cases h
    rfl

theorem Session.perform_permissions {s : Session Unit} (hwrites : s.WritesOnly)
    (hstops : s.StopsAtError) {engine : Engine} {tables after : Tables} {supply later : Supply}
    (h : s.perform engine tables supply = (.ok (), after, later)) :
    after.permissions = permissionsAfter s.said tables.permissions := by
  induction s generalizing tables with
  | done value =>
    cases h
    rfl
  | fail failure => exact hwrites.elim
  | draw next ih => exact hwrites.elim
  | send statement next ih =>
    obtain ⟨_, halike, hrest⟩ := hwrites
    rw [perform, Tables.answer] at h
    cases hchange : tables.change statement with
    | error raised =>
      obtain ⟨failure, hfail⟩ := hstops.2 raised
      rw [hchange] at h
      change (next (.error raised)).perform engine tables supply = _ at h
      rw [hfail] at h
      cases h
    | ok changed =>
      rw [hchange] at h
      change (next (Scripted.reply (.ok ((engine.select tables statement).map statement.cells))
        statement)).perform engine changed supply = _ at h
      rw [Scripted.reply_cells, halike] at h
      refine (ih _ hrest (hstops.1 []) h).trans ?_
      rw [Tables.change_permissions hchange]
      rfl

/-- What inserting permissions makes of rows. -/
structure Inserted (rows new after : List Permission) : Prop where
  keyed : Keyed after
  added : ∃ added, after = rows ++ added ∧
    ∀ permission ∈ added, permission ∈ new ∧ permission.key ∉ rows.map (·.key)
  covered : ∀ permission ∈ new, permission.key ∈ after.map (·.key)

theorem inserted_addMissing {rows : List Permission} (h : Keyed rows) (permission : Permission) :
    Inserted rows [permission] (addMissing rows permission) := by
  rw [addMissing]
  split
  · rename_i hthere
    exact ⟨h, ⟨[], by simp, by simp⟩, by simpa using hthere⟩
  · rename_i hnew
    exact ⟨h.append_one hnew, ⟨[permission], rfl, by simpa using hnew⟩, by simp⟩

namespace Inserted

variable {rows middle new more after : List Permission}

theorem trans (h : Inserted rows new middle) (hmore : Inserted middle more after) :
    Inserted rows (new ++ more) after := by
  obtain ⟨first, rfl, hfirst⟩ := h.added
  obtain ⟨second, rfl, hsecond⟩ := hmore.added
  refine ⟨hmore.keyed, ⟨first ++ second, List.append_assoc .., ?_⟩, ?_⟩
  · intro permission hp
    rcases List.mem_append.mp hp with hin | hin
    · exact ⟨List.mem_append_left _ (hfirst permission hin).1, (hfirst permission hin).2⟩
    · obtain ⟨hnew, habsent⟩ := hsecond permission hin
      rw [List.map_append, List.mem_append, not_or] at habsent
      exact ⟨List.mem_append_right _ hnew, habsent.1⟩
  · intro permission hp
    rcases List.mem_append.mp hp with hin | hin
    · rw [List.map_append]
      exact List.mem_append_left _ (h.covered permission hin)
    · exact hmore.covered permission hin

theorem of_foldl (h : Keyed rows) : Inserted rows new (new.foldl addMissing rows) := by
  induction new generalizing rows with
  | nil => exact ⟨h, ⟨[], (List.append_nil _).symm, by simp⟩, by simp⟩
  | cons permission rest ih =>
    have hone := inserted_addMissing h permission
    exact hone.trans (ih hone.keyed)

end Inserted

theorem addMissing_present {rows new : List Permission}
    (h : ∀ permission ∈ new, permission.key ∈ rows.map (·.key)) :
    new.foldl addMissing rows = rows := by
  induction new with
  | nil => rfl
  | cons permission rest ih =>
    rw [List.foldl_cons, addMissing, if_pos (h permission List.mem_cons_self)]
    exact ih fun other ho => h other (List.mem_cons_of_mem _ ho)

theorem permissionsAfter_saveRole (role : Role) (rows : List Permission) :
    permissionsAfter (Repository.saveRole role).said rows =
      role.permissions.foldl addMissing
        ((Statement.trimPermissions role.id role.actions).onPermissions rows) := by
  rw [Repository.saveRole_said, Repository.permissionInserts]
  cases role.permissions with
  | nil => rfl
  | cons permission rest => rfl

/-- Stored permissions that match a role's own: its actions are there once each, in the rows that
were there already where there were such, and no row of another role has changed. -/
structure Overwritten (role : Role) (rows after : List Permission) : Prop where
  keyed : Keyed after
  actions : ∀ action, (after.map (·.key)).count (role.id, action) =
    if action ∈ role.actions then 1 else 0
  kept : ∀ permission ∈ rows, permission.role = role.id → permission.action ∈ role.actions →
    permission ∈ after
  others : (after.filter fun permission => permission.role ≠ role.id) =
    rows.filter fun permission => permission.role ≠ role.id

section Saving

variable {role : Role} {rows after : List Permission}

theorem mem_trimmed {permission : Permission} :
    permission ∈ (Statement.trimPermissions role.id role.actions).onPermissions rows ↔
      permission ∈ rows ∧ (permission.role = role.id → permission.action ∈ role.actions) := by
  rw [Statement.onPermissions, List.mem_filter]
  simp only [decide_eq_true_eq, not_and, not_not]

theorem key_mem_iff (howned : ∀ permission ∈ role.permissions, permission.role = role.id)
    (h : Inserted ((Statement.trimPermissions role.id role.actions).onPermissions rows)
      role.permissions after) (action : Text) :
    (role.id, action) ∈ after.map (·.key) ↔ action ∈ role.actions := by
  obtain ⟨added, rfl, hadded⟩ := h.added
  constructor
  · intro hin
    obtain ⟨permission, hp, hkey⟩ := List.mem_map.mp hin
    obtain ⟨hrole, rfl⟩ := Prod.mk.inj hkey
    rcases List.mem_append.mp hp with hold | hnew
    · exact (mem_trimmed.mp hold).2 hrole
    · exact List.mem_map_of_mem (hadded permission hnew).1
  · intro hin
    obtain ⟨permission, hp, rfl⟩ := List.mem_map.mp hin
    have hcovered := h.covered permission hp
    rwa [Permission.key, howned permission hp] at hcovered

theorem Overwritten.of_inserted
    (howned : ∀ permission ∈ role.permissions, permission.role = role.id)
    (h : Inserted ((Statement.trimPermissions role.id role.actions).onPermissions rows)
      role.permissions after) : Overwritten role rows after := by
  have hkeys := key_mem_iff howned h
  obtain ⟨added, hafter, hadded⟩ := h.added
  refine ⟨h.keyed, ?_, ?_, ?_⟩
  · intro action
    rw [List.Nodup.count h.keyed]
    simp only [hkeys action]
  · intro permission hp _ haction
    rw [hafter]
    exact List.mem_append_left _ (mem_trimmed.mpr ⟨hp, fun _ => haction⟩)
  · have hown : (added.filter fun permission => permission.role ≠ role.id) = [] := by
      apply List.filter_eq_nil_iff.mpr
      intro permission hp
      simpa using howned permission (hadded permission hp).1
    rw [hafter, List.filter_append, hown, List.append_nil, Statement.onPermissions,
      List.filter_filter]
    apply List.filter_congr
    intro permission _
    by_cases hrole : permission.role = role.id
    · simp [hrole]
    · simp [hrole]

/-- Where the permissions of a role are those of its rows and new ones, saving makes the rows equal
to them, identifiers and times included. -/
theorem saved_perm (howned : ∀ permission ∈ role.permissions, permission.role = role.id)
    (hrows : Keyed rows) (hkeyed : Keyed role.permissions)
    (hfrom : ∀ permission ∈ role.permissions,
      permission ∈ rows ∨ permission.key ∉ rows.map (·.key))
    (h : Inserted ((Statement.trimPermissions role.id role.actions).onPermissions rows)
      role.permissions after) :
    (after.filter fun permission => permission.role = role.id).Perm role.permissions := by
  obtain ⟨added, hafter, hadded⟩ := h.added
  -- Neither side has repeats, so they only have to have the same members.
  apply (List.perm_ext_iff_of_nodup (h.keyed.filter _).nodup hkeyed.nodup).mpr
  intro permission
  simp only [List.mem_filter, decide_eq_true_eq]
  constructor
  · rintro ⟨hin, hrole⟩
    rw [hafter] at hin
    rcases List.mem_append.mp hin with hold | hnew
    · obtain ⟨hstored, haction⟩ := mem_trimmed.mp hold
      obtain ⟨own, hown, hsame⟩ := List.mem_map.mp (haction hrole)
      have hkey : own.key = permission.key :=
        Prod.ext ((howned own hown).trans hrole.symm) hsame
      rcases hfrom own hown with hthere | habsent
      · exact hrows.same hthere hstored hkey ▸ hown
      · exact absurd (hkey ▸ List.mem_map_of_mem hstored) habsent
    · exact (hadded permission hnew).1
  · intro hp
    refine ⟨?_, howned permission hp⟩
    rcases hfrom permission hp with hthere | habsent
    · rw [hafter]
      exact List.mem_append_left _
        (mem_trimmed.mpr ⟨hthere, fun _ => List.mem_map_of_mem hp⟩)
    · obtain ⟨other, ho, hkey⟩ := List.mem_map.mp (h.covered permission hp)
      have hin := ho
      rw [hafter] at hin
      rcases List.mem_append.mp hin with hold | hnew
      · exact absurd (hkey ▸ List.mem_map_of_mem (mem_trimmed.mp hold).1) habsent
      · exact hkeyed.same (hadded other hnew).1 hp hkey ▸ ho

end Saving

def firstRole (permissions : Uuid → List Permission) :
    List RoleRow → Except Failure (Option Role)
  | [] => .ok none
  | row :: _ => (row.toRole (Repository.ownedBy (permissions row.id) row.id)).map some

theorem of_firstRole {permissions : Uuid → List Permission} {rows : List RoleRow} {role : Role}
    (h : firstRole permissions rows = .ok (some role)) :
    role.permissions = Repository.ownedBy (permissions role.id) role.id := by
  cases rows with
  | nil => cases h
  | cons row rest =>
    rw [firstRole] at h
    cases hread : row.toRole (Repository.ownedBy (permissions row.id) row.id) with
    | error failure =>
      rw [hread] at h
      cases h
    | ok read =>
      rw [hread] at h
      cases h
      obtain ⟨hid, hpermissions⟩ := RoleRow.toRole_ok hread
      rw [hpermissions, hid]

def Engine.permissionsOf (engine : Engine) (tables : Tables) (role : Uuid) : List Permission :=
  engine.select tables (.selectPermissions [role])

theorem perform_firstRole (engine : Engine) (tables : Tables) (supply : Supply) (id : Uuid)
    {rows : List RoleRow}
    (hrows : Statement.fetched (.selectRole id) (engine.select tables (.selectRole id)) = rows) :
    (Repository.findRole id).perform engine tables supply =
      (firstRole (engine.permissionsOf tables) rows, tables, supply) := by
  refine (Session.perform_read _ hrows rfl).trans ?_
  cases rows with
  | nil => rfl
  | cons row rest =>
    have hfetched : Statement.fetched (.selectPermissions [row.id])
        (engine.select tables (.selectPermissions [row.id])) =
        engine.permissionsOf tables row.id := rfl
    refine (Session.perform_read _ hfetched rfl).trans ?_
    rw [firstRole]
    cases row.toRole (Repository.ownedBy (engine.permissionsOf tables row.id) row.id) with
    | error failure => rfl
    | ok role => rfl

/-- A role that is loaded from tables comes with the stored permissions that are its own. -/
theorem loaded_permissions {engine : Engine} {tables : Tables} {supply : Supply} {id : Uuid}
    {role : Role}
    (h : ((Repository.findRole id).perform engine tables supply).1 = .ok (some role)) :
    role.permissions.Perm
      (tables.permissions.filter fun permission => permission.role = role.id) := by
  rw [perform_firstRole engine tables supply id rfl] at h
  have hselected : (engine.permissionsOf tables role.id).Perm
      (tables.permissions.filter fun permission => permission.role ∈ [role.id]) :=
    engine.select_perm rfl tables
  rw [of_firstRole h]
  exact ownedBy_perm hselected (List.mem_singleton_self _)

end Rbac.Sql

namespace Rbac.Role

/-- Syncing a role whose actions are distinct, stopped half way or not, leaves permissions that it
had, and new ones whose actions it had not. -/
theorem synced_from {role : Role} (hdistinct : role.actions.Nodup) (requested : List Text)
    (clock : Clock) (supply : Supply) :
    let synced := ((role.sync requested clock).run supply).1.2
    synced.id = role.id ∧ synced.actions.Nodup ∧
      ∀ permission ∈ synced.permissions,
        permission ∈ role.permissions ∨ permission.action ∉ role.actions := by
  cases hs : role.isSystem with
  | true =>
    rw [sync_system hs]
    exact ⟨rfl, hdistinct, fun permission hp => Or.inl hp⟩
  | false =>
    rw [sync_visible hs]
    have hfront := List.takeWhile_sublist (l := role.missing requested)
      fun action => !Text.isBlank action
    refine ⟨rfl, extended_distinct hdistinct hfront role.id clock supply, ?_⟩
    intro permission hp
    rcases List.mem_append.mp hp with hkept | hnew
    · exact Or.inl (List.mem_filter.mp hkept).1
    · have haction : permission.action ∈
          (Permission.series role.id clock supply _).map (·.action) :=
        List.mem_map_of_mem hnew
      rw [Permission.series_actions] at haction
      exact Or.inr (mem_missing.mp (hfront.subset haction)).2

end Rbac.Role

namespace Rbac.Sql

theorem keyed_of_actions {permissions : List Permission}
    (h : (permissions.map (·.action)).Nodup) : Keyed permissions := by
  have hactions : (permissions.map (·.key)).map Prod.snd = permissions.map (·.action) :=
    List.map_map
  exact List.Nodup.of_map Prod.snd (hactions ▸ h)

theorem actions_of_keyed {permissions : List Permission} {role : Uuid} (h : Keyed permissions)
    (howned : ∀ permission ∈ permissions, permission.role = role) :
    (permissions.map (·.action)).Nodup := by
  have hkeys : permissions.map (·.key) = (permissions.map (·.action)).map (Prod.mk role) := by
    rw [List.map_map]
    apply List.map_congr_left
    intro permission hp
    exact Prod.ext (howned permission hp) rfl
  exact List.Nodup.of_map (Prod.mk role) (hkeys ▸ h)

/-- A role that came with all rows of its own, and was then synced, has permissions of these rows
and others for which there is no row. -/
theorem synced_from_rows (base : Role) {role : Role} {rows : List Permission}
    {requested : List Text} {clock : Clock} {supply : Supply} (hrows : Keyed rows)
    (hloaded : base.permissions.Perm
      (rows.filter fun permission => permission.role = base.id))
    (hsynced : ((base.sync requested clock).run supply).1.2 = role)
    (howned : ∀ permission ∈ role.permissions, permission.role = role.id) :
    Keyed role.permissions ∧ ∀ permission ∈ role.permissions,
      permission ∈ rows ∨ permission.key ∉ rows.map (·.key) := by
  have hown : ∀ permission ∈ rows.filter fun permission => permission.role = base.id,
      permission.role = base.id :=
    fun permission hp => of_decide_eq_true (List.mem_filter.mp hp).2
  have hactions := hloaded.map fun permission => permission.action
  have hdistinct : base.actions.Nodup :=
    hactions.nodup_iff.mpr (actions_of_keyed (hrows.filter _) hown)
  obtain ⟨hid, hsyncedActions, hfrom⟩ := Role.synced_from hdistinct requested clock supply
  rw [hsynced] at hid hsyncedActions hfrom
  refine ⟨keyed_of_actions hsyncedActions, ?_⟩
  intro permission hp
  rcases hfrom permission hp with hold | hnew
  · exact Or.inl (List.mem_filter.mp (hloaded.mem_iff.mp hold)).1
  · -- A row for it would have come with the role, which had no such action.
    refine Or.inr ?_
    intro hthere
    obtain ⟨row, hrow, hkey⟩ := List.mem_map.mp hthere
    obtain ⟨hrole, haction⟩ := Prod.mk.inj hkey
    have howner : row.role = base.id := hrole.trans ((howned permission hp).trans hid)
    have hin : row ∈ base.permissions :=
      hloaded.mem_iff.mpr (List.mem_filter.mpr ⟨hrow, decide_eq_true howner⟩)
    exact hnew (haction ▸ List.mem_map_of_mem hin)

/-- Saving a role makes its stored permissions match its own, whatever rows are stored, and saving
it again changes no row. On a connection that answers without an error it sends its statements, and
tables that take them have the rows that the statements say. A role that was loaded from the rows,
renamed or not and then synced, has its own permissions stored, identifiers and times included. -/
theorem saving_overwrites {role : Role} {rows : List Permission}
    (howned : ∀ permission ∈ role.permissions, permission.role = role.id) (hrows : Keyed rows) :
    let statements := (Repository.saveRole role).said
    let after := permissionsAfter statements rows
    (∀ connection : Connection, connection.Calm →
      (Repository.saveRole role).run connection = (.ok (), connection.pastAll statements)) ∧
    (∀ (engine : Engine) (tables final : Tables) (supply later : Supply),
      tables.permissions = rows →
      (Repository.saveRole role).perform engine tables supply = (.ok (), final, later) →
      final.permissions = after) ∧
    Overwritten role rows after ∧
    permissionsAfter statements after = after ∧
    ∀ (engine : Engine) (tables : Tables) (supply drawn : Supply) (id : Uuid) (old : Role)
      (name : Text) (description : Option Text) (updatedAt : Option Instant)
      (requested : List Text) (clock : Clock),
      tables.permissions = rows →
      ((Repository.findRole id).perform engine tables supply).1 = .ok (some old) →
      ((({ old with name, description, updatedAt } : Role).sync requested clock).run drawn).1.2 =
        role →
      (after.filter fun permission => permission.role = role.id).Perm role.permissions := by
  intro statements after
  have hinserted : Inserted ((Statement.trimPermissions role.id role.actions).onPermissions rows)
      role.permissions after := by
    change Inserted _ _ (permissionsAfter statements rows)
    rw [permissionsAfter_saveRole]
    exact .of_foldl (hrows.filter _)
  have hover := Overwritten.of_inserted howned hinserted
  refine ⟨?_, ?_, hover, ?_, ?_⟩
  · intro connection hcalm
    exact (Repository.saveRole_writesOnly role).run hcalm
  · intro engine tables final supply later htables hperform
    rw [Session.perform_permissions (Repository.saveRole_writesOnly role)
      (Repository.saveRole_stops role) hperform, htables]
  · have htrimmed : (Statement.trimPermissions role.id role.actions).onPermissions after =
        after := by
      apply List.filter_eq_self.mpr
      intro permission hp
      have haction : permission.role = role.id → permission.action ∈ role.actions := by
        intro hrole
        apply (key_mem_iff howned hinserted permission.action).mp
        rw [← hrole]
        exact List.mem_map_of_mem hp
      exact (List.mem_filter.mp (mem_trimmed.mpr ⟨hp, haction⟩)).2
    rw [permissionsAfter_saveRole, htrimmed]
    exact addMissing_present hinserted.covered
  · intro engine tables supply drawn id old name description updatedAt requested clock htables hold
      hsynced
    have hloaded := loaded_permissions hold
    rw [htables] at hloaded
    obtain ⟨hkeyed, hfrom⟩ := synced_from_rows { old with name, description, updatedAt } hrows
      hloaded hsynced howned
    exact saved_perm howned hrows hkeyed hfrom hinserted

def libraryRole : Role :=
  ⟨Uuid.ofNat 1, "reader", ⟨.organization, Uuid.ofNat 7⟩, .epoch, none, false, none,
    [⟨Uuid.ofNat 2, Uuid.ofNat 1, "doc:read", .epoch⟩,
      ⟨Uuid.ofNat 3, Uuid.ofNat 1, "doc:list", .epoch⟩]⟩

def library : Tables :=
  ⟨[.ofRole libraryRole],
    ⟨Uuid.ofNat 9, Uuid.ofNat 8, "doc:read", .epoch⟩ :: libraryRole.permissions.reverse, []⟩

theorem library_loads :
    ((Repository.findRole libraryRole.id).perform lastFirst library (.after 100)).1 =
      .ok (some libraryRole) := by
  have hrows : Statement.fetched (.selectRole libraryRole.id)
      (lastFirst.select library (.selectRole libraryRole.id)) = [RoleRow.ofRole libraryRole] := rfl
  have hsorted : libraryRole.permissions.Pairwise fun a b => permissionLe a b = true := by
    decide +kernel
  have harranged : (library.permissions.filter fun permission =>
      permission.role ∈ [libraryRole.id]).reverse = libraryRole.permissions := by decide +kernel
  have hselected : lastFirst.permissionsOf library libraryRole.id = libraryRole.permissions := by
    have hsort : lastFirst.permissionsOf library libraryRole.id =
        ((library.permissions.filter fun permission =>
          permission.role ∈ [libraryRole.id]).reverse.mergeSort permissionLe) := rfl
    rw [hsort, harranged, List.mergeSort_of_pairwise hsorted]
  have hid : (RoleRow.ofRole libraryRole).id = libraryRole.id := rfl
  have hown : Repository.ownedBy libraryRole.permissions libraryRole.id =
      libraryRole.permissions := by decide +kernel
  rw [perform_firstRole lastFirst library (.after 100) libraryRole.id hrows, firstRole, hid,
    hselected, hown, RoleRow.toRole_ofRole]
  rfl

theorem library_overwritten :
    let role := ((libraryRole.sync ["doc:list", "doc:write"] .epoch).run (.after 100)).1.2
    let statements := (Repository.saveRole role).said
    let after := permissionsAfter statements library.permissions
    let silent : Connection := ⟨[], .after 100, [], []⟩
    let saved := (Repository.saveRole role).perform lastFirst library (.after 100)
    (∀ permission ∈ role.permissions, permission.role = role.id) ∧ Keyed library.permissions ∧
      silent.Calm ∧
      (Repository.saveRole role).run silent = (.ok (), silent.pastAll statements) ∧
      saved.1 = .ok () ∧ saved.2.1.permissions = after ∧
      Overwritten role library.permissions after ∧
      permissionsAfter statements after = after ∧
      ((Repository.findRole libraryRole.id).perform lastFirst library (.after 100)).1 =
        .ok (some libraryRole) ∧
      (after.filter fun permission => permission.role = role.id).Perm role.permissions := by
  intro role statements after silent saved
  have howned : ∀ permission ∈ role.permissions, permission.role = role.id := by decide +kernel
  have hrows : Keyed library.permissions := by
    rw [Keyed]
    decide +kernel
  have hcalm : silent.Calm := by simp [Connection.Calm, silent]
  have hsaved : saved.1 = .ok () := by decide +kernel
  have hperform : (Repository.saveRole role).perform lastFirst library (.after 100) =
      (.ok (), saved.2.1, saved.2.2) := Prod.ext hsaved rfl
  obtain ⟨hsends, htables, hover, hsettled, hloaded⟩ := saving_overwrites howned hrows
  exact ⟨howned, hrows, hcalm, hsends silent hcalm, hsaved, htables _ _ _ _ _ rfl hperform, hover,
    hsettled, library_loads, hloaded lastFirst library (.after 100) (.after 100) libraryRole.id
      libraryRole _ _ _ _ _ rfl library_loads rfl⟩

end Rbac.Sql
