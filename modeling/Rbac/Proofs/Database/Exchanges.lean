import Rbac.Proofs.Bracket
import Rbac.Proofs.Database.Meaning

namespace Rbac.Sql

variable {α β : Type}

namespace Connection

def pastAll (statements : List Statement) (connection : Connection) : Connection :=
  statements.foldl (fun connection statement => connection.past statement) connection

@[simp] theorem pastAll_nil (connection : Connection) : connection.pastAll [] = connection := rfl

@[simp] theorem pastAll_cons (statement : Statement) (statements : List Statement)
    (connection : Connection) :
    connection.pastAll (statement :: statements) =
      (connection.past statement).pastAll statements := rfl

theorem answer_cons {connection : Connection} {scripted : Scripted} {rest : List Scripted}
    (h : connection.replies = scripted :: rest) (statement : Statement) :
    connection.answer 0 statement = scripted.reply statement := by
  simp [answer, h]

theorem answer_cells {connection : Connection} (statement : Statement)
    {rows : List statement.Row} {rest : List Scripted}
    (h : connection.replies = .ok (rows.map statement.cells) :: rest) :
    connection.answer 0 statement = .ok (statement.fetched rows) :=
  (answer_cons h statement).trans (Scripted.reply_cells statement rows)

end Connection

namespace Session

theorem run_bind (s : Session α) (f : α → Session β) (connection : Connection) :
    (s >>= f).run connection =
      match s.run connection with
      | (.ok value, connection) => (f value).run connection
      | (.error failure, connection) => (.error failure, connection) := by
  change (s.bind f).run connection = _
  induction s generalizing connection with
  | done value => rfl
  | fail failure => rfl
  | draw next ih => exact ih connection.supply.next _
  | send statement next ih => exact ih _ _

theorem run_bind_ok {s : Session α} {connection later : Connection} {value : α}
    (f : α → Session β) (h : s.run connection = (.ok value, later)) :
    (s >>= f).run connection = (f value).run later := by
  rw [run_bind, h]

theorem run_query {statement : Statement} {connection : Connection} {rows : List statement.Row}
    (h : connection.answer 0 statement = .ok rows) :
    (query statement).run connection = (.ok rows, connection.past statement) := by
  rw [query, run, Connection.send_eq, h]
  rfl

def DrawsNone : Session α → Prop
  | .done _ | .fail _ => True
  | .draw _ => False
  | .send _ next => ∀ reply, (next reply).DrawsNone

theorem DrawsNone.bind {s : Session α} {f : α → Session β} (hs : s.DrawsNone)
    (hf : ∀ value, (f value).DrawsNone) : (s >>= f).DrawsNone := by
  change (s.bind f).DrawsNone
  induction s with
  | done value => exact hf value
  | fail failure => trivial
  | draw next ih => exact hs.elim
  | send statement next ih => exact fun reply => ih reply (hs reply)

theorem query_drawsNone (statement : Statement) : (query statement).DrawsNone := by
  intro reply
  cases reply with
  | error raised => trivial
  | ok rows => trivial

theorem ofExcept_drawsNone (result : Except Failure α) : (ofExcept result).DrawsNone := by
  cases result with
  | error failure => trivial
  | ok value => trivial

theorem DrawsNone.run_congr {s : Session α} (h : s.DrawsNone) {one two : Connection}
    (hreplies : one.replies = two.replies) : (s.run one).1 = (s.run two).1 := by
  induction s generalizing one two with
  | done value => rfl
  | fail failure => rfl
  | draw next ih => exact h.elim
  | send statement next ih =>
    have hanswer : one.answer 0 statement = two.answer 0 statement := by
      simp [Connection.answer, hreplies]
    simp only [run, Connection.send_eq, hanswer]
    exact ih _ (h _) (congrArg List.tail hreplies)

end Session

namespace Repository

theorem permissionsOf_drawsNone (roles : List Uuid) : (permissionsOf roles).DrawsNone := by
  cases roles with
  | nil => trivial
  | cons role rest => exact Session.query_drawsNone _

theorem grantsOf_drawsNone (user scopeId : Uuid) : (grantsOf user scopeId).DrawsNone := by
  apply (Session.query_drawsNone (.selectAssignmentsOf user scopeId)).bind
  intro rows
  exact (permissionsOf_drawsNone _).bind fun _ => Session.ofExcept_drawsNone _

end Repository

def Connection.Calm (connection : Connection) : Prop :=
  ∀ scripted ∈ connection.replies, ∃ rows, scripted = .ok rows

/-- A statement whose answer is not looked into. -/
def Statement.Unread (statement : Statement) : Prop :=
  ∀ cells, ∃ row, statement.readRow? cells = some row

namespace Connection

theorem Calm.past {connection : Connection} (h : connection.Calm) (statement : Statement) :
    (connection.past statement).Calm :=
  fun scripted hin => h scripted (List.mem_of_mem_tail hin)

theorem Calm.answers {connection : Connection} (h : connection.Calm) {statement : Statement}
    (hunread : statement.Unread) : ∃ rows, connection.answer 0 statement = .ok rows := by
  cases hreplies : connection.replies with
  | nil => exact ⟨[], by simp [answer, hreplies]⟩
  | cons scripted rest =>
    obtain ⟨cells, rfl⟩ := h scripted (by simp [hreplies])
    have hall : ∀ readable : List (List Cell),
        ∃ rows, readable.mapM statement.readRow? = some rows := by
      intro readable
      induction readable with
      | nil => exact ⟨[], rfl⟩
      | cons row others ih =>
        obtain ⟨first, hfirst⟩ := hunread row
        obtain ⟨rows, hrows⟩ := ih
        exact ⟨first :: rows, by rw [List.mapM_cons, hfirst, hrows]; rfl⟩
    obtain ⟨rows, hrows⟩ := hall (statement.readable cells)
    exact ⟨rows, by rw [answer_cons hreplies, Scripted.reply, hrows]; rfl⟩

end Connection

namespace Session

/-- The statements that a session sends while each is answered with no rows. -/
def said : Session α → List Statement
  | .done _ | .fail _ => []
  | .draw next => (next .nil).said
  | .send statement next => statement :: (next (.ok [])).said

/-- A session that goes on alike whatever rows it is answered with. -/
def WritesOnly : Session Unit → Prop
  | .done _ => True
  | .fail _ | .draw _ => False
  | .send statement next =>
    statement.Unread ∧ (∀ rows, next (.ok rows) = next (.ok [])) ∧ (next (.ok [])).WritesOnly

namespace WritesOnly

variable {s : Session Unit} {f : Unit → Session Unit}

theorem bind (hs : s.WritesOnly) (hf : (f ()).WritesOnly) : (s >>= f).WritesOnly := by
  change (s.bind f).WritesOnly
  induction s with
  | done value => exact hf
  | fail failure => exact hs.elim
  | draw next ih => exact hs.elim
  | send statement next ih =>
    obtain ⟨hunread, halike, hrest⟩ := hs
    exact ⟨hunread, fun rows => congrArg (·.bind f) (halike rows), ih _ hrest⟩

theorem run (hs : s.WritesOnly) {connection : Connection} (hcalm : connection.Calm) :
    s.run connection = (.ok (), connection.pastAll s.said) := by
  induction s generalizing connection with
  | done value => rfl
  | fail failure => exact hs.elim
  | draw next ih => exact hs.elim
  | send statement next ih =>
    obtain ⟨hunread, halike, hrest⟩ := hs
    obtain ⟨rows, hanswer⟩ := hcalm.answers hunread
    rw [Session.run, Connection.send_eq, hanswer]
    change (next (.ok rows)).run _ = _
    rw [halike rows]
    exact ih _ hrest (hcalm.past statement)

end WritesOnly

theorem execute_writesOnly {statement : Statement} (h : statement.Unread) :
    (execute statement).WritesOnly :=
  ⟨h, fun _ => rfl, True.intro⟩

theorem executeUnique_writesOnly {statement : Statement} (h : statement.Unread)
    (refused : Failure) : (executeUnique statement refused).WritesOnly :=
  ⟨h, fun _ => rfl, True.intro⟩

end Session

namespace Repository

def permissionInserts (permissions : List Permission) : List Statement :=
  if permissions.isEmpty then [] else [.insertPermissions permissions]

theorem insertPermissions_writesOnly (permissions : List Permission) :
    (insertPermissions permissions).WritesOnly := by
  cases permissions with
  | nil => trivial
  | cons permission rest => exact Session.execute_writesOnly fun _ => ⟨(), rfl⟩

theorem insertPermissions_said (permissions : List Permission) :
    (insertPermissions permissions).said = permissionInserts permissions := by
  cases permissions with
  | nil => rfl
  | cons permission rest => rfl

theorem insertRole_writesOnly (role : Role) : (insertRole role).WritesOnly := by
  have hunread : Statement.Unread (.insertRole (.ofRole role)) := fun _ => ⟨(), rfl⟩
  exact (Session.executeUnique_writesOnly hunread _).bind
    (insertPermissions_writesOnly role.permissions)

theorem insertRole_said (role : Role) :
    (insertRole role).said = .insertRole (.ofRole role) :: permissionInserts role.permissions :=
  congrArg (List.cons _) (insertPermissions_said role.permissions)

theorem saveRole_writesOnly (role : Role) : (saveRole role).WritesOnly := by
  have hupdate : Statement.Unread (.updateRole role.id role.name role.description role.updatedAt) :=
    fun _ => ⟨(), rfl⟩
  have htrim : Statement.Unread (.trimPermissions role.id role.actions) := fun _ => ⟨(), rfl⟩
  apply (Session.executeUnique_writesOnly hupdate _).bind
  exact (Session.execute_writesOnly htrim).bind (insertPermissions_writesOnly role.permissions)

theorem saveRole_said (role : Role) :
    (saveRole role).said =
      .updateRole role.id role.name role.description role.updatedAt ::
        .trimPermissions role.id role.actions :: permissionInserts role.permissions :=
  congrArg (fun inserts => _ :: _ :: inserts) (insertPermissions_said role.permissions)

theorem insertAssignment_writesOnly (assignment : Assignment) :
    (insertAssignment assignment).WritesOnly := by
  have hunread : Statement.Unread (.insertAssignment (.ofAssignment assignment)) :=
    fun _ => ⟨(), rfl⟩
  exact Session.executeUnique_writesOnly hunread _

theorem insertAssignment_said (assignment : Assignment) :
    (insertAssignment assignment).said = [.insertAssignment (.ofAssignment assignment)] := rfl

end Repository
end Rbac.Sql
