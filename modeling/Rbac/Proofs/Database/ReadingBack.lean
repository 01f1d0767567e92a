import Rbac.Proofs.Database.Exchanges
import Rbac.Proofs.Database.Grants

namespace Rbac

variable {α β : Type}

/-- A list made by taking from the front of queues, one element at a time and whichever the queue,
until all are empty. -/
inductive Interleaved : List (List α) → List α → Prop
  | done {queues : List (List α)} (empty : ∀ queue ∈ queues, queue = []) : Interleaved queues []
  | take {queues : List (List α)} {first : α} {rest taken : List α} (turn : Nat)
      (front : queues[turn]? = some (first :: rest))
      (later : Interleaved (queues.set turn rest) taken) : Interleaved queues (first :: taken)

namespace Interleaved

theorem of_map {f : α → β} {queues : List (List α)} {taken : List β}
    (h : Interleaved (queues.map (List.map f)) taken) :
    ∃ values, taken = values.map f ∧ Interleaved queues values := by
  generalize himages : queues.map (List.map f) = images at h
  induction h generalizing queues with
  | done hempty =>
    subst himages
    refine ⟨[], rfl, .done ?_⟩
    intro queue hin
    exact List.map_eq_nil_iff.mp (hempty _ (List.mem_map_of_mem hin))
  | take turn hfront _ ih =>
    subst himages
    rw [List.getElem?_map, Option.map_eq_some_iff] at hfront
    obtain ⟨queue, hqueue, hmap⟩ := hfront
    obtain ⟨first, rest, rfl, rfl, rfl⟩ := List.map_eq_cons_iff.mp hmap
    obtain ⟨values, rfl, hlater⟩ := @ih (queues.set turn rest) List.map_set
    exact ⟨first :: values, rfl, .take turn hqueue hlater⟩

theorem filter_eq {p : α → Bool} {queues : List (List α)} {taken own : List α} {place : Nat}
    (h : Interleaved queues taken) (hown : queues[place]? = some own)
    (hyes : ∀ value ∈ own, p value = true)
    (hno : ∀ other queue, other ≠ place → queues[other]? = some queue →
      ∀ value ∈ queue, p value = false) : taken.filter p = own := by
  -- On the turns: only those of the one queue add to what the filter lets through.
  induction h generalizing own with
  | done hempty =>
    rw [hempty own (List.mem_of_getElem? hown)]
    rfl
  | @take queues first rest taken turn hfront _ ih =>
    by_cases hturn : turn = place
    · subst hturn
      obtain rfl : first :: rest = own := Option.some.inj (hfront.symm.trans hown)
      have hplace : (queues.set turn rest)[turn]? = some rest := by
        rw [List.getElem?_set_self (List.getElem?_eq_some_iff.mp hfront).1]
      rw [List.filter_cons_of_pos (hyes first List.mem_cons_self),
        ih hplace (fun value hin => hyes value (List.mem_cons_of_mem _ hin)) ?_]
      intro other queue hne hqueue
      rw [List.getElem?_set_ne hne.symm] at hqueue
      exact hno other queue hne hqueue
    · have hplace : (queues.set turn rest)[place]? = some own := by
        rw [List.getElem?_set_ne hturn, hown]
      have hfirst := hno turn _ hturn hfront
      rw [List.filter_cons_of_neg (by simp [hfirst first List.mem_cons_self]), ih hplace hyes ?_]
      intro other queue hne hqueue value hin
      by_cases hother : other = turn
      · subst hother
        rw [List.getElem?_set_self (List.getElem?_eq_some_iff.mp hfront).1] at hqueue
        obtain rfl := Option.some.inj hqueue
        exact hfirst value (List.mem_cons_of_mem _ hin)
      · rw [List.getElem?_set_ne (Ne.symm hother)] at hqueue
        exact hno other queue hne hqueue value hin

end Interleaved

end Rbac

namespace Rbac.Sql

def Param.cell? : Param → Option Cell
  | .cell value => some value
  | .ids _ | .texts _ => none

/-- The tuples of values that a statement is sent with. -/
def Statement.tuples (statement : Statement) : List (List Cell) :=
  match statement.params with
  | .none => []
  | .one params => [params.filterMap Param.cell?]
  | .batch rows => rows.map fun params => params.filterMap Param.cell?

def Statement.target? : Statement → Option String
  | .insertRole _ => some Schema.roles.name
  | .insertPermissions _ => some Schema.permissions.name
  | .insertAssignment _ => some Schema.assignments.name
  | _ => none

def Session.inserted (table : String) (session : Session Unit) : List (List Cell) :=
  (session.said.filter fun statement => statement.target? = some table).flatMap (·.tuples)

theorem tuple_cells (cells : List Cell) :
    (cells.map Param.cell).filterMap Param.cell? = cells := by
  induction cells with
  | nil => rfl
  | cons cell rest ih => exact congrArg (List.cons cell) ih

theorem Statement.tuples_insertRole (row : RoleRow) :
    (Statement.insertRole row).tuples = [row.cells] :=
  congrArg (fun cells => [cells]) (tuple_cells row.cells)

theorem Statement.tuples_insertPermissions (permissions : List Permission) :
    (Statement.insertPermissions permissions).tuples = permissions.map permissionCells := by
  change (permissions.map fun permission => (permissionCells permission).map Param.cell).map
    (fun params => params.filterMap Param.cell?) = _
  rw [List.map_map]
  apply List.map_congr_left
  intro permission _
  exact tuple_cells (permissionCells permission)

theorem Statement.tuples_insertAssignment (row : AssignmentRow) :
    (Statement.insertAssignment row).tuples = [row.cells] :=
  congrArg (fun cells => [cells]) (tuple_cells row.cells)

namespace Repository

theorem insertRole_roles (role : Role) :
    (insertRole role).inserted Schema.roles.name = [(RoleRow.ofRole role).cells] := by
  rw [Session.inserted, insertRole_said, permissionInserts]
  split
  · simp [Statement.target?, Statement.tuples_insertRole]
  · simp [Statement.target?, Schema.permissions, Schema.roles, Statement.tuples_insertRole]

theorem insertRole_permissions (role : Role) :
    (insertRole role).inserted Schema.permissions.name = role.permissions.map permissionCells := by
  rw [Session.inserted, insertRole_said, permissionInserts]
  cases role.permissions with
  | nil => simp [Statement.target?, Schema.permissions, Schema.roles]
  | cons permission rest =>
    simp [Statement.target?, Schema.permissions, Schema.roles, Statement.tuples_insertPermissions]

theorem insertAssignment_assignments (assignment : Assignment) :
    (insertAssignment assignment).inserted Schema.assignments.name =
      [(AssignmentRow.ofAssignment assignment).cells] := by
  rw [Session.inserted, insertAssignment_said]
  simp [Statement.target?, Statement.tuples_insertAssignment]

end Repository

variable {roles : List Role} {others permissions : List Permission}

/-- Of interleaved permissions each role gets its own back, in their order. -/
theorem ownedBy_interleaved (hids : (roles.map (·.id)).Nodup)
    (howned : ∀ role ∈ roles, ∀ permission ∈ role.permissions, permission.role = role.id)
    (hothers : ∀ permission ∈ others, permission.role ∉ roles.map (·.id))
    (h : Interleaved (others :: roles.map (·.permissions)) permissions) :
    ∀ role ∈ roles, Repository.ownedBy permissions role.id = role.permissions := by
  intro role hrole
  obtain ⟨place, hplace⟩ := List.mem_iff_getElem?.mp hrole
  have hown : (others :: roles.map (·.permissions))[place + 1]? = some role.permissions := by
    rw [List.getElem?_cons_succ, List.getElem?_map, hplace]
    rfl
  apply h.filter_eq hown
  · intro permission hp
    simpa using howned role hrole permission hp
  · intro other queue hne hqueue permission hp
    cases other with
    | zero =>
      obtain rfl : others = queue := Option.some.inj hqueue
      have hforeign : permission.role ≠ role.id := fun he =>
        hothers permission hp (he ▸ List.mem_map_of_mem hrole)
      simpa using hforeign
    | succ other =>
      rw [List.getElem?_cons_succ, List.getElem?_map, Option.map_eq_some_iff] at hqueue
      obtain ⟨owner, howner, rfl⟩ := hqueue
      have hforeign : owner.id ≠ role.id := by
        intro he
        have hsame : (roles.map (·.id))[other]? = (roles.map (·.id))[place]? := by
          rw [List.getElem?_map, List.getElem?_map, howner, hplace]
          exact congrArg some he
        have hin : other < (roles.map (·.id)).length := by
          rw [List.length_map]
          exact (List.getElem?_eq_some_iff.mp howner).1
        exact hne (congrArg (· + 1) ((List.getElem?_inj hin hids).mp hsame))
      rw [howned owner (List.mem_of_getElem? howner) permission hp]
      simpa using hforeign

namespace Repository

variable {connection : Connection} {rest : List Scripted}

theorem run_permissionsOf {ids : List Uuid} (hids : ids ≠ [])
    (h : connection.replies = .ok (permissions.map permissionCells) :: rest) :
    (permissionsOf ids).run connection =
      (.ok permissions, connection.past (.selectPermissions ids)) := by
  cases ids with
  | nil => exact absurd rfl hids
  | cons id others =>
    exact Session.run_query (Connection.answer_cells (.selectPermissions (id :: others)) h)

theorem run_rolesIn (scope : Scope)
    (howned : ∀ role ∈ roles, ownedBy permissions role.id = role.permissions)
    (h : connection.replies = .ok ((roles.map RoleRow.ofRole).map RoleRow.cells) ::
      .ok (permissions.map permissionCells) :: rest) :
    (rolesIn scope).run connection = (.ok roles, connection.pastAll (.selectRolesIn scope ::
      if roles.isEmpty then [] else [.selectPermissions (roles.map (·.id))])) := by
  have hrows := Session.run_query (Connection.answer_cells (.selectRolesIn scope) h)
  refine (Session.run_bind_ok _ hrows).trans ?_
  change ((permissionsOf ((roles.map RoleRow.ofRole).map (·.id))) >>= fun permissions =>
    Session.ofExcept ((roles.map RoleRow.ofRole).mapM fun row =>
      row.toRole (ownedBy permissions row.id))).run _ = _
  have hids : (roles.map RoleRow.ofRole).map (·.id) = roles.map (·.id) := List.map_map
  rw [hids]
  have hlater : (connection.past (.selectRolesIn scope)).replies =
      .ok (permissions.map permissionCells) :: rest := congrArg List.tail h
  cases roles with
  | nil => rfl
  | cons first more =>
    refine (Session.run_bind_ok _ (run_permissionsOf (List.cons_ne_nil _ _) hlater)).trans ?_
    rw [read_roles howned]
    rfl

theorem run_findRole (id : Uuid)
    (howned : ∀ role ∈ roles, ownedBy permissions role.id = role.permissions)
    (h : connection.replies = .ok ((roles.map RoleRow.ofRole).map RoleRow.cells) ::
      .ok (permissions.map permissionCells) :: rest) :
    (findRole id).run connection = (.ok roles.head?, connection.pastAll (.selectRole id ::
      (roles.head?.toList.map fun role => .selectPermissions [role.id]))) := by
  have hrows := Session.run_query (Connection.answer_cells (.selectRole id) h)
  refine (Session.run_bind_ok _ hrows).trans ?_
  have hlater : (connection.past (.selectRole id)).replies =
      .ok (permissions.map permissionCells) :: rest := congrArg List.tail h
  cases roles with
  | nil => rfl
  | cons first more =>
    have hrole : (RoleRow.ofRole first).toRole (ownedBy permissions first.id) = .ok first := by
      rw [howned first List.mem_cons_self]
      exact RoleRow.toRole_ofRole first
    change (permissionsOf [first.id] >>= fun permissions =>
      Session.ofExcept ((RoleRow.ofRole first).toRole (ownedBy permissions first.id)) >>=
        fun role => pure (some role)).run (connection.past (.selectRole id)) = _
    rw [Session.run_bind_ok _ (run_permissionsOf (List.cons_ne_nil _ _) hlater), hrole]
    rfl

theorem run_loadGrants {held : List (Assignment × Role)}
    (howned : ∀ pair ∈ held, ownedBy permissions pair.1.role = pair.2.permissions)
    (h : connection.replies = .ok (permissions.map permissionCells) :: rest) :
    (loadGrants (held.map joinedRow)).run connection =
      (.ok (held.map Grant.ofHeld), connection.pastAll
        (if held.isEmpty then []
          else [.selectPermissions (held.map (·.1.role)).eraseDups])) := by
  cases held with
  | nil => rfl
  | cons first more =>
    have hroles : ((first :: more).map joinedRow).map (·.1.role) =
        (first :: more).map (·.1.role) := List.map_map
    have hsome : ((first :: more).map (·.1.role)).eraseDups ≠ [] := by
      rw [List.map_cons, List.eraseDups_cons]
      exact List.cons_ne_nil _ _
    rw [loadGrants, hroles]
    refine (Session.run_bind_ok _ (run_permissionsOf hsome h)).trans ?_
    rw [read_grants howned]
    rfl

def joinedCells (row : AssignmentRow × RoleRow) : List Cell :=
  row.1.cells ++ row.2.cells

/-- However assignments are asked for, they are read from the first answer; where one is asked for,
it is the first of them. -/
theorem run_joined {held : List (Assignment × Role)}
    (howned : ∀ pair ∈ held, ownedBy permissions pair.1.role = pair.2.permissions)
    (h : connection.replies = .ok ((held.map joinedRow).map joinedCells) ::
      .ok (permissions.map permissionCells) :: rest) :
    let further : List Statement := if held.isEmpty then []
      else [.selectPermissions (held.map (·.1.role)).eraseDups]
    (∀ user scopeId, (grantsOf user scopeId).run connection = (.ok (held.map Grant.ofHeld),
      connection.pastAll (.selectAssignmentsOf user scopeId :: further))) ∧
    (∀ id, (findAssignment id).run connection = (.ok (held.map Grant.ofHeld).head?,
      connection.pastAll (.selectAssignment id :: further))) ∧
    ∀ role user scopeId, (grantOf role user scopeId).run connection =
      (.ok (held.map Grant.ofHeld).head?,
        connection.pastAll (.selectAssignmentOf role user scopeId :: further)) := by
  intro further
  have hlater : connection.replies.tail = .ok (permissions.map permissionCells) :: rest :=
    congrArg List.tail h
  refine ⟨?_, ?_, ?_⟩
  · intro user scopeId
    have hrows := Session.run_query
      (Connection.answer_cells (.selectAssignmentsOf user scopeId) h)
    exact (Session.run_bind_ok _ hrows).trans (run_loadGrants howned hlater)
  · intro id
    have hrows := Session.run_query (Connection.answer_cells (.selectAssignment id) h)
    refine (Session.run_bind_ok _ hrows).trans ?_
    exact Session.run_bind_ok _ (run_loadGrants howned hlater)
  · intro role user scopeId
    have hrows := Session.run_query
      (Connection.answer_cells (.selectAssignmentOf role user scopeId) h)
    refine (Session.run_bind_ok _ hrows).trans ?_
    exact Session.run_bind_ok _ (run_loadGrants howned hlater)

end Repository

def joinedTuple (pair : Assignment × Role) : List Cell :=
  ((Repository.insertAssignment pair.1).inserted Schema.assignments.name ++
    (Repository.insertRole pair.2).inserted Schema.roles.name).flatten

theorem joinedTuple_eq (held : List (Assignment × Role)) :
    held.map joinedTuple = (held.map joinedRow).map Repository.joinedCells := by
  rw [List.map_map]
  apply List.map_congr_left
  intro pair _
  simp [joinedTuple, Repository.insertAssignment_assignments, Repository.insertRole_roles,
    joinedRow, Repository.joinedCells]

theorem roleTuples_eq (roles : List Role) :
    (roles.flatMap fun role => (Repository.insertRole role).inserted Schema.roles.name) =
      (roles.map RoleRow.ofRole).map RoleRow.cells := by
  simp only [Repository.insertRole_roles, List.map_map]
  exact List.map_eq_flatMap.symm

/-- Whatever creating roles and assignments sends for the tables is read again as it was. Roles of
different ids that own their permissions come back as the first answer lists them, if the second
holds their permissions in any interleaving, also with permissions of other roles in between; one
role is looked up as the first of them. Assignments of these roles come back with them. A read sends
one more statement for the permissions if there are rows, and otherwise none. -/
theorem rows_read_back (answer : List (List Cell))
    (hids : (roles.map (·.id)).Nodup)
    (howned : ∀ role ∈ roles, ∀ permission ∈ role.permissions, permission.role = role.id)
    (hothers : ∀ permission ∈ others, permission.role ∉ roles.map (·.id))
    (hanswer : Interleaved (others.map permissionCells :: roles.map fun role =>
      (Repository.insertRole role).inserted Schema.permissions.name) answer)
    (connection : Connection) (rest : List Scripted) :
    (connection.Calm →
      (∀ role, (Repository.insertRole role).run connection =
        (.ok (), connection.pastAll (Repository.insertRole role).said)) ∧
      ∀ assignment, (Repository.insertAssignment assignment).run connection =
        (.ok (), connection.pastAll (Repository.insertAssignment assignment).said)) ∧
    (connection.replies = .ok (roles.flatMap fun role =>
          (Repository.insertRole role).inserted Schema.roles.name) :: .ok answer :: rest →
      (∀ scope, (Repository.rolesIn scope).run connection = (.ok roles, connection.pastAll
        (.selectRolesIn scope ::
          if roles.isEmpty then [] else [.selectPermissions (roles.map (·.id))]))) ∧
      ∀ id, (Repository.findRole id).run connection = (.ok roles.head?, connection.pastAll
        (.selectRole id :: (roles.head?.toList.map fun role => .selectPermissions [role.id])))) ∧
    ∀ held : List (Assignment × Role),
      (∀ pair ∈ held, pair.2 ∈ roles ∧ pair.1.role = pair.2.id) →
      connection.replies = .ok (held.map joinedTuple) :: .ok answer :: rest →
      let further : List Statement := if held.isEmpty then []
        else [.selectPermissions (held.map (·.1.role)).eraseDups]
      (∀ user scopeId, (Repository.grantsOf user scopeId).run connection =
        (.ok (held.map Grant.ofHeld),
          connection.pastAll (.selectAssignmentsOf user scopeId :: further))) ∧
      (∀ id, (Repository.findAssignment id).run connection =
        (.ok (held.map Grant.ofHeld).head?,
          connection.pastAll (.selectAssignment id :: further))) ∧
      ∀ role user scopeId, (Repository.grantOf role user scopeId).run connection =
        (.ok (held.map Grant.ofHeld).head?,
          connection.pastAll (.selectAssignmentOf role user scopeId :: further)) := by
  have hpermissions : (roles.map fun role =>
      (Repository.insertRole role).inserted Schema.permissions.name) =
      (roles.map (·.permissions)).map (List.map permissionCells) := by
    simp only [Repository.insertRole_permissions, List.map_map]
    rfl
  rw [hpermissions, ← List.map_cons] at hanswer
  obtain ⟨permissions, rfl, hinterleaved⟩ := hanswer.of_map
  have hown := ownedBy_interleaved hids howned hothers hinterleaved
  refine ⟨?_, ?_, ?_⟩
  · intro hcalm
    exact ⟨fun role => (Repository.insertRole_writesOnly role).run hcalm,
      fun assignment => (Repository.insertAssignment_writesOnly assignment).run hcalm⟩
  · intro hreplies
    rw [roleTuples_eq] at hreplies
    exact ⟨fun scope => Repository.run_rolesIn scope hown hreplies,
      fun id => Repository.run_findRole id hown hreplies⟩
  · intro held hheld hreplies further
    have hownHeld : ∀ pair ∈ held,
        Repository.ownedBy permissions pair.1.role = pair.2.permissions := by
      intro pair hin
      obtain ⟨hrole, hof⟩ := hheld pair hin
      rw [hof]
      exact hown pair.2 hrole
    rw [joinedTuple_eq] at hreplies
    exact Repository.run_joined hownHeld hreplies

def oldPermission (id role : Nat) (action : Text) : Permission :=
  ⟨Uuid.ofNat id, Uuid.ofNat role, action, .epoch⟩

def readerAndWriter : List Role :=
  let scope : Scope := ⟨.organization, Uuid.ofNat 7⟩
  [⟨Uuid.ofNat 1, "reader", scope, .epoch, none, false, none,
      [oldPermission 2 1 "doc:read", oldPermission 3 1 "doc:list"]⟩,
    ⟨Uuid.ofNat 5, "writer", scope, .epoch, none, true, some .epoch,
      [oldPermission 6 5 "doc:write"]⟩]

/-- Their permissions and one of a third role, in no order but that of each role's own. -/
def shuffled : List Permission :=
  [oldPermission 6 5 "doc:write", oldPermission 2 1 "doc:read", oldPermission 9 8 "doc:share",
    oldPermission 3 1 "doc:list"]

def bothHeld : List (Assignment × Role) :=
  readerAndWriter.reverse.map fun role =>
    (⟨role.id, role.id, Uuid.ofNat 4, role.scope, .epoch, Uuid.ofNat 4⟩, role)

theorem readerAndWriter_read_back :
    let others := [oldPermission 9 8 "doc:share"]
    let answer := shuffled.map permissionCells
    let rolesAnswered : Connection :=
      ⟨[.ok (readerAndWriter.flatMap fun role =>
        (Repository.insertRole role).inserted Schema.roles.name), .ok answer], .after 100, [], []⟩
    let grantsAnswered : Connection :=
      ⟨[.ok (bothHeld.map joinedTuple), .ok answer], .after 100, [], []⟩
    (readerAndWriter.map (·.id)).Nodup ∧
      (∀ role ∈ readerAndWriter, ∀ permission ∈ role.permissions, permission.role = role.id) ∧
      (∀ permission ∈ others, permission.role ∉ readerAndWriter.map (·.id)) ∧
      Interleaved (others.map permissionCells :: readerAndWriter.map fun role =>
        (Repository.insertRole role).inserted Schema.permissions.name) answer ∧
      rolesAnswered.Calm ∧
      (∀ role, (Repository.insertRole role).run rolesAnswered =
        (.ok (), rolesAnswered.pastAll (Repository.insertRole role).said)) ∧
      (∀ scope, (Repository.rolesIn scope).run rolesAnswered = (.ok readerAndWriter,
        rolesAnswered.pastAll (.selectRolesIn scope ::
          if readerAndWriter.isEmpty then []
            else [.selectPermissions (readerAndWriter.map (·.id))]))) ∧
      (∀ pair ∈ bothHeld, pair.2 ∈ readerAndWriter ∧ pair.1.role = pair.2.id) ∧
      ∀ user scopeId, (Repository.grantsOf user scopeId).run grantsAnswered =
        (.ok (bothHeld.map Grant.ofHeld), grantsAnswered.pastAll
          (.selectAssignmentsOf user scopeId :: if bothHeld.isEmpty then []
            else [.selectPermissions (bothHeld.map (·.1.role)).eraseDups])) := by
  intro others answer rolesAnswered grantsAnswered
  have hids : (readerAndWriter.map (·.id)).Nodup := by decide
  have howned : ∀ role ∈ readerAndWriter, ∀ permission ∈ role.permissions,
      permission.role = role.id := by decide
  have hothers : ∀ permission ∈ others, permission.role ∉ readerAndWriter.map (·.id) := by decide
  have hanswer : Interleaved (others.map permissionCells :: readerAndWriter.map fun role =>
      (Repository.insertRole role).inserted Schema.permissions.name) answer := by
    simp only [Repository.insertRole_permissions]
    exact .take 2 rfl (.take 1 rfl (.take 0 rfl (.take 1 rfl (.done (by decide)))))
  have hcalm : rolesAnswered.Calm := by
    simp [Connection.Calm, rolesAnswered]
  have hheld : ∀ pair ∈ bothHeld, pair.2 ∈ readerAndWriter ∧ pair.1.role = pair.2.id := by decide
  obtain ⟨hwrites, hroles, _⟩ :=
    rows_read_back answer hids howned hothers hanswer rolesAnswered []
  obtain ⟨_, _, hgrants⟩ := rows_read_back answer hids howned hothers hanswer grantsAnswered []
  exact ⟨hids, howned, hothers, hanswer, hcalm, (hwrites hcalm).1, (hroles rfl).1, hheld,
    (hgrants bothHeld hheld rfl).1⟩

end Rbac.Sql
