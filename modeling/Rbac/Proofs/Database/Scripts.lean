import Rbac.Proofs.Bracket
import Rbac.Proofs.Conflicts
import Rbac.Proofs.Database.Agreeing
import Rbac.Proofs.Database.Placing

namespace Rbac

open Sql (Form)

/-- The forms that an operation sends, one after the other. -/
def Operation.script : Operation → List Form
  | .findRole _ => [.selectRole, .selectPermissions]
  | .rolesIn _ => [.selectRolesIn, .selectPermissions]
  | .nameTaken _ _ except => [.findRoleName except.isSome]
  | .insertRole _ => [.insertRole, .insertPermissions]
  | .keepRole _ => []
  | .saveRole _ => [.updateRole, .trimPermissions, .insertPermissions]
  | .deleteRole _ => [.deleteRole]
  | .findAssignment _ => [.selectAssignment, .selectPermissions]
  | .grantOf .. => [.selectAssignmentOf, .selectPermissions]
  | .isAssigned .. => [.findAssignment]
  | .grantsOf .. => [.selectAssignmentsOf, .selectPermissions]
  | .countByRole _ => [.countAssignments]
  | .insertAssignment _ => [.insertAssignment]
  | .deleteAssignment _ => [.deleteAssignment]

def RequestType.script : RequestType → List Form
  | .createRole => [.findRoleName false, .insertRole, .insertPermissions]
  | .updateRole =>
    [.selectRole, .selectPermissions, .findRoleName true, .updateRole, .trimPermissions,
      .insertPermissions]
  | .deleteRole => [.selectRole, .selectPermissions, .countAssignments, .deleteRole]
  | .assignRole =>
    [.selectRole, .selectPermissions, .findAssignment, .insertAssignment, .selectAssignment,
      .selectPermissions]
  | .revokeRole => [.selectAssignmentOf, .selectPermissions, .deleteAssignment]
  | .getRole => [.selectRole, .selectPermissions]
  | .listRoles => [.selectRolesIn, .selectPermissions]
  | .checkPermission | .userPermissions => [.selectAssignmentsOf, .selectPermissions]

end Rbac

namespace Rbac.Sql

variable {α β : Type} {rest script : List Form}

namespace Session

/-- A session that sends statements of the forms of a script, in order, until it ends. Where it ends
with a value, that value stands to the forms that are left as it has to. -/
def Follows (ends : α → List Form → Prop) : Session α → List Form → Prop
  | .done value, script => ends value script
  | .fail _, _ => True
  | .draw next, script => ∀ id, (next id).Follows ends script
  | .send statement next, script =>
    ∃ rest, script = statement.form :: rest ∧ ∀ reply, (next reply).Follows ends rest

variable {ends : α → List Form → Prop} {others : β → List Form → Prop}

theorem Follows.bind {s : Session α} {f : α → Session β}
    (h : s.Follows (fun value rest => (f value).Follows others rest) script) :
    (s >>= f).Follows others script := by
  change (s.bind f).Follows others script
  induction s generalizing script with
  | done value => exact h
  | fail failure => trivial
  | draw next ih => exact fun id => ih id (h id)
  | send statement next ih =>
    obtain ⟨rest, rfl, hnext⟩ := h
    exact ⟨rest, rfl, fun reply => ih reply (hnext reply)⟩

/-- What a session sends over a connection is the beginning of its script. -/
theorem Follows.begins {s : Session α} (h : s.Follows ends script) (connection : Connection) :
    ((s.exchanges connection).map fun exchange => exchange.statement.form) <+: script := by
  induction s generalizing script connection with
  | done value => exact List.nil_prefix
  | fail failure => exact List.nil_prefix
  | draw next ih => exact ih _ (h _) _
  | send statement next ih =>
    obtain ⟨rest, rfl, hnext⟩ := h
    exact List.prefix_cons_inj _ |>.mpr (ih _ (hnext _) _)

theorem query_follows (statement : Statement) {ends : List statement.Row → List Form → Prop}
    (h : ∀ rows, ends rows rest) :
    (query statement).Follows ends (statement.form :: rest) := by
  refine ⟨rest, rfl, ?_⟩
  intro reply
  cases reply with
  | error raised => trivial
  | ok rows => exact h rows

theorem execute_follows {ends : Unit → List Form → Prop} {statement : Statement}
    (h : ends () rest) : (execute statement).Follows ends (statement.form :: rest) :=
  Follows.bind (query_follows statement fun _ => h)

theorem executeUnique_follows {ends : Unit → List Form → Prop} {statement : Statement}
    {refused : Failure} (h : ends () rest) :
    (executeUnique statement refused).Follows ends (statement.form :: rest) := by
  refine ⟨rest, rfl, ?_⟩
  intro reply
  cases reply with
  | error raised => trivial
  | ok rows => exact h

theorem ofExcept_follows (result : Except Failure α) (h : ∀ value, ends value script) :
    (ofExcept result).Follows ends script := by
  cases result with
  | error failure => trivial
  | ok value => exact h value

end Session

namespace Repository

open Session

theorem permissionsOf_follows {ends : List Permission → List Form → Prop} {roles : List Uuid}
    (hnone : roles = [] → ends [] (.selectPermissions :: rest))
    (hsent : ∀ permissions, ends permissions rest) :
    (permissionsOf roles).Follows ends (.selectPermissions :: rest) := by
  cases roles with
  | nil => exact hnone rfl
  | cons role roles => exact query_follows (.selectPermissions _) hsent

theorem findRole_follows {ends : Option Role → List Form → Prop} {id : Uuid}
    (hnone : ∀ script, ends none script) (hsome : ∀ role, ends (some role) rest) :
    (findRole id).Follows ends (.selectRole :: .selectPermissions :: rest) := by
  apply Follows.bind
  apply query_follows (.selectRole id)
  intro rows
  cases rows with
  | nil => exact hnone _
  | cons row _ =>
    apply Follows.bind
    apply permissionsOf_follows (by simp)
    intro permissions
    generalize RoleRow.toRole row (ownedBy permissions (RoleRow.id row)) = result
    apply Follows.bind
    exact ofExcept_follows result hsome

theorem rolesIn_follows {ends : List Role → List Form → Prop} {scope : Scope}
    (h : ∀ roles script, ends roles script) :
    (rolesIn scope).Follows ends [.selectRolesIn, .selectPermissions] := by
  apply Follows.bind
  apply query_follows (.selectRolesIn scope)
  intro rows
  apply Follows.bind
  exact permissionsOf_follows (fun _ => ofExcept_follows _ fun _ => h _ _)
    fun _ => ofExcept_follows _ fun _ => h _ _

theorem nameTaken_follows {ends : Bool → List Form → Prop} {name : Text} {scope : Scope}
    {except : Option Uuid} (h : ∀ taken, ends taken rest) :
    (nameTaken name scope except).Follows ends (.findRoleName except.isSome :: rest) := by
  apply Follows.bind
  exact query_follows (.findRoleName name scope except) fun _ => h _

theorem insertPermissions_follows {ends : Unit → List Form → Prop} (permissions : List Permission)
    (h : ∀ rest, ends () rest) :
    (insertPermissions permissions).Follows ends [.insertPermissions] := by
  cases permissions with
  | nil => exact h _
  | cons permission permissions => exact execute_follows (h _)

theorem insertRole_follows {ends : Unit → List Form → Prop} (role : Role)
    (h : ∀ rest, ends () rest) :
    (insertRole role).Follows ends [.insertRole, .insertPermissions] := by
  apply Follows.bind
  apply executeUnique_follows
  exact insertPermissions_follows _ h

theorem saveRole_follows {ends : Unit → List Form → Prop} (role : Role)
    (h : ∀ rest, ends () rest) :
    (saveRole role).Follows ends [.updateRole, .trimPermissions, .insertPermissions] := by
  apply Follows.bind
  apply executeUnique_follows
  apply Follows.bind
  apply execute_follows
  exact insertPermissions_follows _ h

theorem loadGrants_follows {ends : List Grant → List Form → Prop}
    (rows : List (AssignmentRow × RoleRow)) (hnone : ends [] (.selectPermissions :: rest))
    (hsome : ∀ grants, ends grants rest) :
    (loadGrants rows).Follows ends (.selectPermissions :: rest) := by
  apply Follows.bind
  apply permissionsOf_follows
  · intro h
    cases rows with
    | nil => exact hnone
    | cons row rows => simp [List.eraseDups_cons] at h
  · exact fun permissions => ofExcept_follows _ hsome

theorem findAssignment_follows {ends : Option Grant → List Form → Prop} {id : Uuid}
    (h : ∀ found script, ends found script) :
    (findAssignment id).Follows ends [.selectAssignment, .selectPermissions] := by
  apply Follows.bind
  apply query_follows (.selectAssignment id)
  intro rows
  apply Follows.bind
  exact loadGrants_follows rows (h _ _) fun grants => h _ _

theorem grantOf_follows {ends : Option Grant → List Form → Prop} {role user scopeId : Uuid}
    (hnone : ∀ script, ends none script) (hfound : ∀ found, ends found rest) :
    (grantOf role user scopeId).Follows ends
      (.selectAssignmentOf :: .selectPermissions :: rest) := by
  apply Follows.bind
  apply query_follows (.selectAssignmentOf role user scopeId)
  intro rows
  apply Follows.bind
  exact loadGrants_follows rows (hnone _) fun grants => hfound _

theorem grantsOf_follows {ends : List Grant → List Form → Prop} {user scopeId : Uuid}
    (h : ∀ grants script, ends grants script) :
    (grantsOf user scopeId).Follows ends [.selectAssignmentsOf, .selectPermissions] := by
  apply Follows.bind
  apply query_follows (.selectAssignmentsOf user scopeId)
  exact fun rows => loadGrants_follows rows (h _ _) fun grants => h _ _

theorem isAssigned_follows {ends : Bool → List Form → Prop} {role user scopeId : Uuid}
    (h : ∀ held, ends held rest) :
    (isAssigned role user scopeId).Follows ends (.findAssignment :: rest) := by
  apply Follows.bind
  exact query_follows (.findAssignment role user scopeId) fun _ => h _

theorem countByRole_follows {ends : Nat → List Form → Prop} {role : Uuid}
    (h : ∀ count, ends count rest) :
    (ofOperation (.countByRole role)).Follows ends (.countAssignments :: rest) := by
  apply Follows.bind
  apply Follows.bind
  apply query_follows (.countAssignments role)
  exact fun rows => ofExcept_follows _ h

end Repository

theorem ofOperation_follows (operation : Operation) :
    (ofOperation operation).Follows (fun _ _ => True) operation.script := by
  cases operation with
  | findRole id => exact Repository.findRole_follows (fun _ => trivial) fun _ => trivial
  | rolesIn scope => exact Repository.rolesIn_follows fun _ _ => trivial
  | nameTaken name scope except => exact Repository.nameTaken_follows fun _ => trivial
  | insertRole role => exact Repository.insertRole_follows role fun _ => trivial
  | keepRole role => trivial
  | saveRole role => exact Repository.saveRole_follows role fun _ => trivial
  | deleteRole id => exact Session.execute_follows trivial
  | findAssignment id => exact Repository.findAssignment_follows fun _ _ => trivial
  | grantOf role user scopeId =>
    exact Repository.grantOf_follows (fun _ => trivial) fun _ => trivial
  | isAssigned role user scopeId => exact Repository.isAssigned_follows fun _ => trivial
  | grantsOf user scopeId => exact Repository.grantsOf_follows fun _ _ => trivial
  | countByRole role => exact Repository.countByRole_follows fun _ => trivial
  | insertAssignment assignment => exact Session.executeUnique_follows trivial
  | deleteAssignment id => exact Session.execute_follows trivial

section Requests

open Session

variable {ends : β → List Form → Prop}

theorem ask_follows {operation : Operation} {f : operation.Answer → Transaction β}
    (h : (ofOperation operation).Follows
      (fun answer rest => (ofTransaction (f answer)).Follows ends rest) script) :
    (ofTransaction (Transaction.request operation >>= f)).Follows ends script :=
  Follows.bind h

theorem draw_follows {d : Draw α} {f : α → Transaction β}
    (h : ∀ value, (ofTransaction (f value)).Follows ends script) :
    (ofTransaction (Transaction.ofDraw d >>= f)).Follows ends script := by
  induction d with
  | done value => exact h value
  | draw next ih => exact fun id => ih id

theorem except_follows {result : Except Failure α} {f : α → Transaction β}
    (h : ∀ value, (ofTransaction (f value)).Follows ends script) :
    (ofTransaction (Transaction.ofExcept result >>= f)).Follows ends script := by
  cases result with
  | error failure => trivial
  | ok value => exact h value

theorem grantEach_follows {role : Role} {actions : List Text} {clock : Clock}
    {f : Role → Transaction β} (h : ∀ role, (ofTransaction (f role)).Follows ends script) :
    (ofTransaction (UseCase.grantEach role actions clock >>= f)).Follows ends script := by
  rw [UseCase.grantEach, Transaction.bind_assoc]
  apply draw_follows
  intro granted
  rw [Transaction.bind_assoc]
  apply except_follows
  exact fun _ => h granted.2

variable (clock : Clock)

theorem createRole_follows (command : CreateRole) :
    (ofTransaction (UseCase.createRole command clock)).Follows (fun _ _ => True)
      RequestType.createRole.script := by
  apply ask_follows
  apply Repository.nameTaken_follows
  intro taken
  cases taken with
  | true => trivial
  | false =>
    apply draw_follows
    intro created
    apply grantEach_follows
    intro role
    apply ask_follows
    exact Repository.insertRole_follows role fun _ => trivial

theorem updateRole_follows (command : UpdateRole) :
    (ofTransaction (UseCase.updateRole command clock)).Follows (fun _ _ => True)
      RequestType.updateRole.script := by
  apply ask_follows
  apply Repository.findRole_follows fun _ => trivial
  intro role
  apply ask_follows
  apply Repository.nameTaken_follows
  intro taken
  cases taken with
  | true => trivial
  | false =>
    apply except_follows
    intro updated
    apply draw_follows
    intro synced
    apply ask_follows
    apply except_follows
    intro _
    apply ask_follows
    exact Repository.saveRole_follows synced.2 fun _ => trivial

theorem deleteRole_follows (id : Uuid) :
    (ofTransaction (UseCase.deleteRole id clock)).Follows (fun _ _ => True)
      RequestType.deleteRole.script := by
  apply ask_follows
  apply Repository.findRole_follows fun _ => trivial
  intro role
  apply ask_follows
  apply Repository.countByRole_follows
  intro held
  split
  · trivial
  · apply except_follows
    intro deleted
    apply ask_follows
    exact execute_follows trivial

theorem assignRole_follows (command : AssignRole) :
    (ofTransaction (UseCase.assignRole command clock)).Follows (fun _ _ => True)
      RequestType.assignRole.script := by
  apply ask_follows
  apply Repository.findRole_follows fun _ => trivial
  intro role
  dsimp only
  split
  · trivial
  · apply ask_follows
    apply Repository.isAssigned_follows
    intro assigned
    cases assigned with
    | true => trivial
    | false =>
      apply draw_follows
      intro created
      apply ask_follows
      apply executeUnique_follows
      apply ask_follows
      apply Repository.findAssignment_follows
      intro saved script
      cases saved with
      | none => trivial
      | some grant => trivial

theorem revokeRole_follows (command : RevokeRole) :
    (ofTransaction (UseCase.revokeRole command clock)).Follows (fun _ _ => True)
      RequestType.revokeRole.script := by
  apply ask_follows
  apply Repository.grantOf_follows fun _ => trivial
  intro found
  cases found with
  | none => trivial
  | some grant =>
    apply ask_follows
    exact execute_follows trivial

theorem getRole_follows (id : Uuid) :
    (ofTransaction (UseCase.getRole id)).Follows (fun _ _ => True)
      RequestType.getRole.script := by
  apply ask_follows
  exact Repository.findRole_follows (fun _ => trivial) fun _ => trivial

/-- Every request keeps to the script of its type. -/
theorem useCase_follows (request : Request) :
    (ofTransaction (request.useCase clock)).Follows (fun _ _ => True) request.type.script := by
  cases request with
  | createRole command => exact createRole_follows clock command
  | updateRole command => exact updateRole_follows clock command
  | deleteRole id => exact deleteRole_follows clock id
  | assignRole command => exact assignRole_follows clock command
  | revokeRole command => exact revokeRole_follows clock command
  | getRole id => exact getRole_follows id
  | listRoles scope => exact ask_follows (Repository.rolesIn_follows fun _ _ => trivial)
  | checkPermission query => exact ask_follows (Repository.grantsOf_follows fun _ _ => trivial)
  | userPermissions query => exact ask_follows (Repository.grantsOf_follows fun _ _ => trivial)

end Requests

namespace Connection

def texts (connection : Connection) : List String :=
  connection.log.filterMap fun
    | .sent statement => some statement.sql
    | .connect _ | .commit | .rollback => none

/-- Between two moments of a connection the beginning of a script has been sent, and no more. -/
def Sends (script : List Form) (before after : Connection) : Prop :=
  ∃ count, after.texts = before.texts ++ (script.take count).map (·.text)

/-- Two runs of one script send the same texts as far as both get. -/
theorem Sends.agree {one later other after : Connection} {texts others : List String}
    (hone : Sends script one later) (hother : Sends script other after)
    (htexts : later.texts = one.texts ++ texts) (hothers : after.texts = other.texts ++ others) :
    (texts <+: others ∨ others <+: texts) ∧ (texts.length = others.length → texts = others) := by
  obtain ⟨count, hcount⟩ := hone
  obtain ⟨number, hnumber⟩ := hother
  obtain rfl := List.append_cancel_left (htexts.symm.trans hcount)
  obtain rfl := List.append_cancel_left (hothers.symm.trans hnumber)
  constructor
  · rcases Nat.le_total count number with h | h
    · exact Or.inl ((List.take_prefix_take_left h).map _)
    · exact Or.inr ((List.take_prefix_take_left h).map _)
  · intro hlength
    simp only [List.length_map, List.length_take] at hlength
    rw [List.take_eq_take_iff.mpr hlength]

end Connection

theorem Session.Follows.sends {ends : α → List Form → Prop} {s : Session α}
    (h : s.Follows ends script) (connection : Connection) :
    Connection.Sends script connection (s.run connection).2 := by
  refine ⟨_, Eq.trans ?_ (congrArg (fun forms => connection.texts ++ forms.map Form.text)
    (List.prefix_iff_eq_take.mp (h.begins connection)))⟩
  rw [Connection.texts, Session.log_exchanges, List.filterMap_append]
  simp [Connection.texts, List.filterMap_map, Function.comp_def, Statement.sql_form]

namespace Connection

theorem execute_sends (request : Request) (clock : Clock) (connection : Connection) :
    Sends request.type.script connection (execute (request.useCase clock) connection).2 := by
  have hsends := (useCase_follows clock request).sends connection
  rw [execute]
  rcases hrun : (ofTransaction (request.useCase clock)).run connection with
    ⟨failure | answer, after⟩
  · rw [hrun] at hsends
    simpa [Sends, texts, note] using hsends
  · rw [hrun] at hsends
    simpa [Sends, texts, note] using hsends

theorem step_sends (pattern : Pattern) (step : World.Step) (connection : Connection) :
    Sends step.request.type.script connection (Connection.step pattern step connection).2 := by
  obtain ⟨request, clock, direct⟩ := step
  cases direct with
  | true => exact execute_sends request clock connection
  | false =>
    by_cases hvalid : Validation.breaches pattern request = []
    · rw [step_valid hvalid]
      exact execute_sends request clock connection
    · rw [step_invalid hvalid]
      exact ⟨0, (List.append_nil _).symm⟩

end Connection

/-- What a request is about never gets into a text. Every statement has one of a fixed list of
texts, with a place for each of its parameters, and each parameter is where it belongs. Whatever is
asked and answered, a request sends the beginning of the script of its type, and an operation of a
transaction the beginning of its own; so two requests of one type differ in nothing but how far they
get, and if they send equally many statements they send the same texts. -/
theorem data_stays_out_of_texts :
    (∀ statement : Statement, statement.sql ∈ Form.all.map (·.text) ∧ statement.Placed) ∧
      (∀ (pattern : Pattern) (step : World.Step) (connection : Connection),
        Connection.Sends step.request.type.script connection
          (Connection.step pattern step connection).2) ∧
      (∀ (operation : Operation) (connection : Connection),
        Connection.Sends operation.script connection ((ofOperation operation).run connection).2) ∧
      ∀ (pattern elsewhere : Pattern) (one other : World.Step) (connection another : Connection)
        (texts others : List String), one.request.type = other.request.type →
        (Connection.step pattern one connection).2.texts = connection.texts ++ texts →
        (Connection.step elsewhere other another).2.texts = another.texts ++ others →
        (texts <+: others ∨ others <+: texts) ∧
          (texts.length = others.length → texts = others) := by
  refine ⟨?_, Connection.step_sends, fun operation => (ofOperation_follows operation).sends, ?_⟩
  · intro statement
    rw [statement.sql_form]
    exact ⟨List.mem_map_of_mem (Form.mem_all _), statement.placed⟩
  · intro pattern elsewhere one other connection another texts others htype htexts hothers
    have hone := Connection.step_sends pattern one connection
    rw [htype] at hone
    exact hone.agree (Connection.step_sends elsewhere other another) htexts hothers

def creation (name : Text) (actions : List Text) : Connection :=
  (Connection.step (.star false (.one .dot))
    ⟨.createRole ⟨name, ⟨.organization, Uuid.ofNat 7⟩, none, actions⟩, .epoch, false⟩
    ⟨[], .after 100, [], []⟩).2

/-- Roles with different names and actions are written with the same three texts. -/
theorem data_stays_out_of_texts_named :
    (creation "reader" ["doc:read"]).texts = (creation "'; --" ["%s", "doc:write"]).texts ∧
      (creation "reader" ["doc:read"]).texts.length = 3 := by
  obtain ⟨_, _, _, hagree⟩ := data_stays_out_of_texts
  have hlength : (creation "reader" ["doc:read"]).texts.length = 3 := by decide +kernel
  have hother : (creation "'; --" ["%s", "doc:write"]).texts.length = 3 := by decide +kernel
  refine ⟨?_, hlength⟩
  exact (hagree (.star false (.one .dot)) (.star false (.one .dot)) _ _ ⟨[], .after 100, [], []⟩
    ⟨[], .after 100, [], []⟩ _ _ rfl rfl rfl).2 (hlength.trans hother.symm)

end Rbac.Sql
