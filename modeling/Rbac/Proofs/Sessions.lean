import Rbac.Sql.Repository

namespace Rbac.Sql

variable {α β : Type}

namespace Session

/-- An error of the database ends the session: nothing is sent after it. -/
def StopsAtError : Session α → Prop
  | .done _ | .fail _ => True
  | .draw next => ∀ id, (next id).StopsAtError
  | .send _ next =>
    (∀ rows, (next (.ok rows)).StopsAtError) ∧
      ∀ raised, ∃ failure, next (.error raised) = .fail failure

/-- Every value that the session can end with has a property. -/
def Ensures (P : α → Prop) : Session α → Prop
  | .done value => P value
  | .fail _ => True
  | .draw next => ∀ id, (next id).Ensures P
  | .send _ next => ∀ reply, (next reply).Ensures P

theorem StopsAtError.bind {s : Session α} {f : α → Session β} (hs : s.StopsAtError)
    (hf : ∀ value, (f value).StopsAtError) : (s >>= f).StopsAtError := by
  change (s.bind f).StopsAtError
  induction s with
  | done value => exact hf value
  | fail failure => trivial
  | draw next ih =>
    intro id
    exact ih id (hs id)
  | send statement next ih =>
    refine ⟨fun rows => ih _ (hs.1 rows), ?_⟩
    intro raised
    obtain ⟨failure, hfail⟩ := hs.2 raised
    refine ⟨failure, ?_⟩
    change (next (.error raised)).bind f = _
    rw [hfail]
    rfl

theorem Ensures.bind {P : α → Prop} {Q : β → Prop} {s : Session α} {f : α → Session β}
    (hs : s.Ensures P) (hf : ∀ value, P value → (f value).Ensures Q) : (s >>= f).Ensures Q := by
  change (s.bind f).Ensures Q
  induction s with
  | done value => exact hf value hs
  | fail failure => trivial
  | draw next ih =>
    intro id
    exact ih id (hs id)
  | send statement next ih =>
    intro reply
    exact ih reply (hs reply)

theorem ensures_of_forall {P : α → Prop} (h : ∀ value, P value) (s : Session α) : s.Ensures P := by
  induction s with
  | done value => exact h value
  | fail failure => trivial
  | draw next ih => exact ih
  | send statement next ih => exact ih

theorem pure_stops (value : α) : (pure value : Session α).StopsAtError := True.intro

theorem ofExcept_stops (result : Except Failure α) : (ofExcept result).StopsAtError := by
  cases result with
  | error failure => trivial
  | ok value => trivial

theorem ofExcept_ensures {P : α → Prop} {result : Except Failure α}
    (h : ∀ value, result = .ok value → P value) : (ofExcept result).Ensures P := by
  cases result with
  | error failure => trivial
  | ok value => exact h value rfl

theorem query_stops (statement : Statement) : (query statement).StopsAtError :=
  ⟨fun _ => trivial, fun raised => ⟨raised.failure, rfl⟩⟩

theorem execute_stops (statement : Statement) : (execute statement).StopsAtError :=
  (query_stops statement).bind fun _ => trivial

theorem executeUnique_stops (statement : Statement) (refused : Failure) :
    (executeUnique statement refused).StopsAtError :=
  ⟨fun _ => trivial, fun _ => ⟨_, rfl⟩⟩

end Session

namespace Repository

theorem permissionsOf_stops (roles : List Uuid) : (permissionsOf roles).StopsAtError := by
  cases roles with
  | nil => trivial
  | cons role rest => exact Session.query_stops _

theorem insertPermissions_stops (permissions : List Permission) :
    (insertPermissions permissions).StopsAtError := by
  cases permissions with
  | nil => trivial
  | cons permission rest => exact Session.execute_stops _

theorem loadGrants_stops (rows : List (AssignmentRow × RoleRow)) :
    (loadGrants rows).StopsAtError :=
  (permissionsOf_stops _).bind fun _ => Session.ofExcept_stops _

theorem findRole_stops (id : Uuid) : (findRole id).StopsAtError := by
  apply (Session.query_stops (.selectRole id)).bind
  intro rows
  cases rows with
  | nil => exact Session.pure_stops _
  | cons row rest =>
    apply (permissionsOf_stops _).bind
    intro permissions
    generalize RoleRow.toRole row (ownedBy permissions row.id) = result
    apply (Session.ofExcept_stops result).bind
    intro role
    exact Session.pure_stops _

theorem rolesIn_stops (scope : Scope) : (rolesIn scope).StopsAtError := by
  apply (Session.query_stops (.selectRolesIn scope)).bind
  intro rows
  apply Session.StopsAtError.bind
  · exact permissionsOf_stops _
  · intro permissions
    exact Session.ofExcept_stops _

theorem insertRole_stops (role : Role) : (insertRole role).StopsAtError :=
  (Session.executeUnique_stops _ _).bind fun _ => insertPermissions_stops _

theorem saveRole_stops (role : Role) : (saveRole role).StopsAtError := by
  apply (Session.executeUnique_stops _ _).bind
  intro _
  exact (Session.execute_stops _).bind fun _ => insertPermissions_stops _

end Repository

/-- Every operation of the repositories stops at the first error. -/
theorem ofOperation_stops (operation : Operation) : (ofOperation operation).StopsAtError := by
  cases operation with
  | findRole id => exact Repository.findRole_stops id
  | rolesIn scope => exact Repository.rolesIn_stops scope
  | nameTaken name scope except => exact (Session.query_stops _).bind fun _ => trivial
  | insertRole role => exact Repository.insertRole_stops role
  | keepRole role => trivial
  | saveRole role => exact Repository.saveRole_stops role
  | deleteRole id => exact Session.execute_stops _
  | findAssignment id =>
    exact (Session.query_stops _).bind fun rows =>
      (Repository.loadGrants_stops rows).bind fun _ => trivial
  | grantOf role user scopeId =>
    exact (Session.query_stops _).bind fun rows =>
      (Repository.loadGrants_stops rows).bind fun _ => trivial
  | isAssigned role user scopeId => exact (Session.query_stops _).bind fun _ => trivial
  | grantsOf user scopeId =>
    exact (Session.query_stops _).bind fun rows => Repository.loadGrants_stops rows
  | countByRole role =>
    apply Session.StopsAtError.bind
    · exact (Session.query_stops (.countAssignments role)).bind fun _ => trivial
    · intro cell
      exact Session.ofExcept_stops _
  | insertAssignment assignment => exact Session.executeUnique_stops _ _
  | deleteAssignment id => exact Session.execute_stops _

theorem ofTransaction_stops (t : Transaction α) : (ofTransaction t).StopsAtError := by
  induction t with
  | done value => trivial
  | fail failure => trivial
  | draw next ih => exact ih
  | ask operation next ih => exact (ofOperation_stops operation).bind ih

/-- What holds of an answer that comes from the database: a saved assignment has its role. -/
def Joined : (operation : Operation) → operation.Answer → Prop
  | .findAssignment _, (answer : Option Grant) => ∀ grant ∈ answer, grant.role.isSome = true
  | _, _ => True

theorem mem_of_mapM_ok {γ : Type} {f : γ → Except Failure β} {inputs : List γ} {values : List β}
    (h : inputs.mapM f = .ok values) : ∀ value ∈ values, ∃ input ∈ inputs, f input = .ok value := by
  induction inputs generalizing values with
  | nil =>
    cases h
    intro _ hin
    cases hin
  | cons input rest ih =>
    rw [List.mapM_cons] at h
    cases hfirst : f input with
    | error failure =>
      rw [hfirst] at h
      cases h
    | ok first =>
      rw [hfirst] at h
      cases hrest : rest.mapM f with
      | error failure =>
        simp only [hrest] at h
        cases h
      | ok others =>
        simp only [hrest] at h
        cases h
        intro value hin
        rcases List.mem_cons.mp hin with rfl | hother
        · exact ⟨input, List.mem_cons_self, hfirst⟩
        · obtain ⟨other, hmem, hvalue⟩ := ih hrest value hother
          exact ⟨other, List.mem_cons_of_mem _ hmem, hvalue⟩

theorem error_of_mapM {γ : Type} {f : γ → Except Failure β} {inputs : List γ} {failure : Failure}
    (h : inputs.mapM f = .error failure) : ∃ input ∈ inputs, f input = .error failure := by
  induction inputs with
  | nil => cases h
  | cons input rest ih =>
    rw [List.mapM_cons] at h
    cases hfirst : f input with
    | error other =>
      rw [hfirst] at h
      cases h
      exact ⟨input, List.mem_cons_self, hfirst⟩
    | ok first =>
      rw [hfirst] at h
      cases hrest : rest.mapM f with
      | error other =>
        simp only [hrest] at h
        cases h
        obtain ⟨other, hmem, hfails⟩ := ih hrest
        exact ⟨other, List.mem_cons_of_mem _ hmem, hfails⟩
      | ok others =>
        simp only [hrest] at h
        cases h

theorem inputs_of_mapM_nil {γ : Type} {f : γ → Except Failure β} {inputs : List γ}
    (h : inputs.mapM f = .ok []) : inputs = [] := by
  cases inputs with
  | nil => rfl
  | cons input rest =>
    rw [List.mapM_cons] at h
    cases hfirst : f input with
    | error failure => simp [hfirst, Bind.bind, Except.bind] at h
    | ok first =>
      cases hrest : rest.mapM f with
      | error failure => simp [hfirst, hrest, Bind.bind, Except.bind] at h
      | ok others => simp [hfirst, hrest, Bind.bind, Except.bind, pure, Except.pure] at h

theorem Repository.loadGrants_joined (rows : List (AssignmentRow × RoleRow)) :
    (loadGrants rows).Ensures fun grants => ∀ grant ∈ grants, grant.role.isSome = true := by
  apply (Session.ensures_of_forall (fun _ => trivial) (permissionsOf _)).bind
  intro permissions _
  apply Session.ofExcept_ensures
  intro grants hgrants grant hgrant
  obtain ⟨⟨row, roleRow⟩, _, hread⟩ := mem_of_mapM_ok hgrants grant hgrant
  cases hassignment : row.toAssignment with
  | error failure =>
    simp only [hassignment] at hread
    cases hread
  | ok assignment =>
    cases hrole : roleRow.toRole (ownedBy permissions row.role) with
    | error failure =>
      simp only [hassignment, hrole] at hread
      cases hread
    | ok role =>
      simp only [hassignment, hrole] at hread
      cases hread
      rfl

theorem ofOperation_joined (operation : Operation) :
    (ofOperation operation).Ensures (Joined operation) := by
  cases operation with
  | findAssignment id =>
    have hrows := Session.ensures_of_forall (fun _ => trivial)
      (Session.query (.selectAssignment id))
    apply hrows.bind
    intro rows _
    apply (Repository.loadGrants_joined rows).bind
    intro grants hgrants
    change ∀ grant ∈ grants.head?, grant.role.isSome = true
    intro grant hhead
    exact hgrants grant (List.mem_of_mem_head? hhead)
  | _ => exact Session.ensures_of_forall (fun _ => trivial) _

end Rbac.Sql

namespace Rbac.Transaction

variable {α β : Type}

/-- Every value that the transaction can end with has a property, whatever its operations answer
that can come from the database. -/
def Ensures (P : α → Prop) : Transaction α → Prop
  | .done value => P value
  | .fail _ => True
  | .draw next => ∀ id, (next id).Ensures P
  | .ask operation next => ∀ answer, Sql.Joined operation answer → (next answer).Ensures P

theorem Ensures.ofTransaction {P : α → Prop} {t : Transaction α} (h : t.Ensures P) :
    (Sql.ofTransaction t).Ensures P := by
  induction t with
  | done value => exact h
  | fail failure => trivial
  | draw next ih =>
    intro id
    exact ih id (h id)
  | ask operation next ih =>
    apply (Sql.ofOperation_joined operation).bind
    intro answer hjoined
    exact ih answer (h answer hjoined)

theorem Ensures.bind {P : β → Prop} {f : α → Transaction β} (t : Transaction α)
    (h : ∀ value, (f value).Ensures P) : (t >>= f).Ensures P := by
  change (t.bind f).Ensures P
  induction t with
  | done value => exact h value
  | fail failure => trivial
  | draw next ih => exact ih
  | ask operation next ih => exact fun answer _ => ih answer

end Rbac.Transaction
