import Rbac.Proofs.History

namespace Rbac

def Store.assignmentsOf (store : Store) (user scopeId : Uuid) : List Assignment :=
  store.assignments.rows.filter fun assignment =>
    decide (assignment.user = user) && decide (assignment.scope.id = scopeId)

namespace Store

variable {store : Store} {user scopeId : Uuid}

theorem mem_assignmentsOf {assignment : Assignment} :
    assignment ∈ store.assignmentsOf user scopeId ↔
      assignment ∈ store.assignments.rows ∧ assignment.user = user ∧
        assignment.scope.id = scopeId := by
  simp [assignmentsOf]

theorem role_ne_of_unassigned {role : Uuid} (h : store.isAssigned role user scopeId = false) :
    ∀ assignment ∈ store.assignmentsOf user scopeId, assignment.role ≠ role := by
  intro assignment hin he
  obtain ⟨hstored, huser, hscope⟩ := mem_assignmentsOf.mp hin
  have hheld : store.isAssigned role user scopeId = true :=
    isAssigned_iff.mpr ⟨assignment, hstored, by rw [Assignment.key, he, huser, hscope]⟩
  rw [h] at hheld
  cases hheld

theorem grantsOf_congr {after : Store}
    (hheld : after.assignmentsOf user scopeId = store.assignmentsOf user scopeId)
    (hroles : ∀ assignment ∈ store.assignmentsOf user scopeId,
      after.role? assignment.role = store.role? assignment.role) :
    after.grantsOf user scopeId = store.grantsOf user scopeId := by
  change ((after.assignmentsOf user scopeId).mergeSort _).map after.load =
    ((store.assignmentsOf user scopeId).mergeSort _).map store.load
  rw [hheld]
  apply List.map_congr_left
  intro assignment hin
  rw [load, load, hroles assignment (List.mem_mergeSort.mp hin)]

theorem grantsOf_putRole {role : Role} (h : store.isAssigned role.id user scopeId = false) :
    (store.putRole role).grantsOf user scopeId = store.grantsOf user scopeId := by
  refine grantsOf_congr rfl ?_
  intro assignment hin
  have hne : role.id ≠ assignment.role := (role_ne_of_unassigned h assignment hin).symm
  simp only [role?, putRole, Table.find_put, if_neg hne]

theorem role_eraseRole {role erased : Uuid} (h : role ≠ erased) :
    (store.eraseRole erased).role? role = store.role? role := by
  cases hfound : store.role? role with
  | none =>
    apply Table.find_none_iff.mpr
    intro other ho
    exact Table.find_none_iff.mp hfound other (Table.mem_erase.mp ho).1
  | some stored =>
    obtain ⟨hstored, rfl⟩ := Table.find_iff.mp hfound
    exact Table.find_iff.mpr ⟨Table.mem_erase.mpr ⟨hstored, h⟩, rfl⟩

theorem grantsOf_eraseRole {role : Uuid} (h : store.isAssigned role user scopeId = false) :
    (store.eraseRole role).grantsOf user scopeId = store.grantsOf user scopeId := by
  refine grantsOf_congr rfl ?_
  intro assignment hin
  exact role_eraseRole (role_ne_of_unassigned h assignment hin)

theorem grantsOf_putAssignment {assignment : Assignment} (hnew : assignment.id ∉ store.ids)
    (h : ¬ (assignment.user = user ∧ assignment.scope.id = scopeId)) :
    (store.putAssignment assignment).grantsOf user scopeId = store.grantsOf user scopeId := by
  refine grantsOf_congr ?_ fun _ _ => rfl
  rw [assignmentsOf, rows_putAssignment hnew, List.filter_append]
  simpa [assignmentsOf] using h

theorem grantsOf_eraseAssignment {assignment : Assignment}
    (hstored : assignment ∈ store.assignments.rows)
    (h : ¬ (assignment.user = user ∧ assignment.scope.id = scopeId)) :
    (store.eraseAssignment assignment.id).grantsOf user scopeId =
      store.grantsOf user scopeId := by
  refine grantsOf_congr ?_ fun _ _ => rfl
  change (store.assignments.rows.filter fun row => row.id ≠ assignment.id).filter _ = _
  rw [List.filter_filter]
  apply List.filter_congr
  intro other ho
  by_cases he : other.id = assignment.id
  · obtain rfl : other = assignment := Table.key_inj ho hstored he
    simpa using h
  · simp [he]

/-- Whether a role permits an action, so that whoever holds it may do it. -/
def Permits (store : Store) (role : Uuid) (action : Text) : Prop :=
  ∃ stored, store.role? role = some stored ∧ action ∈ stored.actions

theorem allows_with_assignment {fewer more : Store} {assignment : Assignment} {action : Text}
    (hroles : more.roles = fewer.roles)
    (hassigned : ∀ role, more.isAssigned role user scopeId = true ↔
      assignment.key = (role, user, scopeId) ∨ fewer.isAssigned role user scopeId = true) :
    UseCase.allows (more.grantsOf user scopeId) action = true ↔
      UseCase.allows (fewer.grantsOf user scopeId) action = true ∨
        ((assignment.user = user ∧ assignment.scope.id = scopeId) ∧
          fewer.Permits assignment.role action) := by
  have hsame : ∀ role, more.role? role = fewer.role? role :=
    fun role => by rw [role?, role?, hroles]
  simp only [UseCase.allows_iff, hassigned, hsame]
  constructor
  · rintro ⟨role, stored, hkey | hheld, hfound, haction⟩
    · simp only [Assignment.key, Prod.mk.injEq] at hkey
      exact Or.inr ⟨hkey.2, stored, hkey.1 ▸ hfound, haction⟩
    · exact Or.inl ⟨role, stored, hheld, hfound, haction⟩
  · rintro (⟨role, stored, hheld, hfound, haction⟩ | ⟨⟨huser, hscope⟩, stored, hfound, haction⟩)
    · exact ⟨role, stored, Or.inr hheld, hfound, haction⟩
    · exact ⟨assignment.role, stored, Or.inl (by rw [Assignment.key, huser, hscope]), hfound,
        haction⟩

theorem allows_putAssignment {assignment : Assignment} {action : Text}
    (hnew : assignment.id ∉ store.ids) :
    UseCase.allows ((store.putAssignment assignment).grantsOf user scopeId) action = true ↔
      UseCase.allows (store.grantsOf user scopeId) action = true ∨
        ((assignment.user = user ∧ assignment.scope.id = scopeId) ∧
          store.Permits assignment.role action) := by
  refine allows_with_assignment rfl ?_
  intro role
  exact isAssigned_putAssignment hnew

theorem allows_eraseAssignment {assignment : Assignment} {action : Text}
    (hstored : assignment ∈ store.assignments.rows) :
    UseCase.allows (store.grantsOf user scopeId) action = true ↔
      UseCase.allows ((store.eraseAssignment assignment.id).grantsOf user scopeId) action = true ∨
        ((assignment.user = user ∧ assignment.scope.id = scopeId) ∧
          store.Permits assignment.role action) := by
  refine allows_with_assignment rfl ?_
  intro role
  exact isAssigned_eraseAssignment hstored

end Store

/-- Whether a request could touch the grants of a user in a scope id: it updates a role that the
user holds there, or it assigns or revokes there. -/
def Request.Touches (store : Store) (user scopeId : Uuid) : Request → Prop
  | .updateRole command => store.isAssigned command.id user scopeId = true
  | .assignRole command => command.user = user ∧ command.scope.id = scopeId
  | .revokeRole command => command.user = user ∧ command.scopeId = scopeId
  | _ => False

/-- The checks whose answer a request can change, from what to what. -/
def Request.Reaches (store : Store) (query : CheckPermission) (was is : Bool) : Request → Prop
  | .assignRole command =>
    (command.user = query.user ∧ command.scope.id = query.scopeId) ∧
      store.Permits command.role query.permission ∧ was = false ∧ is = true
  | .revokeRole command =>
    (command.user = query.user ∧ command.scopeId = query.scopeId) ∧
      store.Permits command.role query.permission ∧ was = true ∧ is = false
  | .updateRole command =>
    store.isAssigned command.id query.user query.scopeId = true ∧
      ∃ role, store.role? command.id = some role ∧ role.scope.id = query.scopeId
  | _ => False

/-- Whether a request works on the grants of a scope id: it updates a role of that scope id, or
assigns or revokes there. -/
def Request.WorksIn (store : Store) (scopeId : Uuid) : Request → Prop
  | .updateRole command => ∃ role ∈ store.role? command.id, role.scope.id = scopeId
  | .assignRole command => command.scope.id = scopeId
  | .revokeRole command => command.scopeId = scopeId
  | _ => False

instance (store : Store) (scopeId : Uuid) :
    (request : Request) → Decidable (request.WorksIn store scopeId)
  | .updateRole command =>
    inferInstanceAs (Decidable (∃ role ∈ store.role? command.id, role.scope.id = scopeId))
  | .assignRole command => inferInstanceAs (Decidable (command.scope.id = scopeId))
  | .revokeRole command => inferInstanceAs (Decidable (command.scopeId = scopeId))
  | .createRole _ | .deleteRole _ | .getRole _ | .listRoles _ | .checkPermission _
  | .userPermissions _ => inferInstanceAs (Decidable False)

namespace Integrity

variable {store : Store} {user scopeId : Uuid}

theorem role_of_assigned (h : Integrity store) {role : Uuid}
    (hassigned : store.isAssigned role user scopeId = true) :
    ∃ stored, store.role? role = some stored ∧ stored.scope.id = scopeId := by
  obtain ⟨assignment, hassignment, hkey⟩ := Store.isAssigned_iff.mp hassigned
  obtain ⟨stored, hstored, hid, hscope⟩ := h.in_scope assignment hassignment
  simp only [Assignment.key, Prod.mk.injEq] at hkey
  exact ⟨stored, Table.find_iff.mpr ⟨hstored, hid.trans hkey.1⟩,
    by rw [hscope]; exact hkey.2.2⟩

theorem unassigned_of_new (h : Integrity store) {role : Uuid} (hnew : role ∉ store.ids) :
    store.isAssigned role user scopeId = false := by
  cases hassigned : store.isAssigned role user scopeId with
  | false => rfl
  | true =>
    obtain ⟨stored, hfound, _⟩ := h.role_of_assigned hassigned
    obtain ⟨hstored, rfl⟩ := Table.find_iff.mp hfound
    exact absurd (Store.role_id_mem hstored) hnew

theorem touches_worksIn (h : Integrity store) {request : Request}
    (htouches : request.Touches store user scopeId) : request.WorksIn store scopeId := by
  cases request with
  | updateRole command => exact h.role_of_assigned htouches
  | assignRole command => exact htouches.2
  | revokeRole command => exact htouches.2
  | _ => exact htouches

end Integrity

theorem Store.unassigned_of_unheld {store : Store} {role user scopeId : Uuid}
    (h : store.countByRole role = 0) : store.isAssigned role user scopeId = false := by
  cases hassigned : store.isAssigned role user scopeId with
  | false => rfl
  | true =>
    obtain ⟨assignment, hstored, hkey⟩ := isAssigned_iff.mp hassigned
    have hne : assignment.role ≠ role := by
      simpa using List.countP_eq_zero.mp h assignment hstored
    exact absurd (Prod.mk.inj hkey).1 hne

namespace Effect

variable {clock : Clock} {store after : Store} {supply later : Supply} {request : Request}
  {result : Except Failure (Outcome Answer)} {user scopeId : Uuid}

theorem grants_kept_by_sync {command : UpdateRole} {old role : Role}
    {ended : Except Failure (List Text × List Text)}
    (hfound : store.role? command.id = some old) (hs : old.isSystem = false)
    (hsync : ((command.renamed old clock).sync command.permissions (clock.past 2)).run supply =
      ((ended, role), later))
    (happart : ¬ (Request.updateRole command).Touches store user scopeId) :
    (store.putRole role).grantsOf user scopeId = store.grantsOf user scopeId := by
  obtain ⟨_, hid⟩ := Table.find_iff.mp hfound
  obtain ⟨new, rfl, _⟩ := synced_role hs hsync
  apply Store.grantsOf_putRole
  change store.isAssigned old.id user scopeId = false
  rw [hid]
  simpa [Request.Touches] using happart

theorem grants_kept (h : Effect clock store supply request result after later)
    (hinv : Integrity store) (hnew : ∀ id ∈ supply.drawnUntil later, id ∉ store.ids)
    (happart : ¬ request.Touches store user scopeId) :
    after.grantsOf user scopeId = store.grantsOf user scopeId := by
  cases h with
  | refused => rfl
  | answered => rfl
  | @created command _ _ _ hadd =>
    obtain ⟨rfl, rfl⟩ := created_role hadd
    have hdrawn := Supply.next_mem_drawnUntil
      (supply.advance.reaches_skip command.permissions.length)
    exact Store.grantsOf_putRole (hinv.unassigned_of_new (hnew _ hdrawn))
  | updated hfound _ hs hsync => exact grants_kept_by_sync hfound hs hsync happart
  | halfUpdated hfound _ hs hsync => exact grants_kept_by_sync hfound hs hsync happart
  | deleted _ hunheld => exact Store.grantsOf_eraseRole (Store.unassigned_of_unheld hunheld)
  | assigned =>
    have hdrawn := hnew _ (Supply.next_mem_drawnUntil (.refl supply.advance))
    exact Store.grantsOf_putAssignment hdrawn happart
  | @revoked command assignment hfound =>
    have hkey := Assignment.isFor_iff.mp (List.find?_some hfound)
    simp only [Assignment.key, Prod.mk.injEq] at hkey
    apply Store.grantsOf_eraseAssignment (List.mem_of_find?_eq_some hfound)
    rw [hkey.2.1, hkey.2.2]
    exact happart

/-- Of two different answers the one that holds where the other does, or for a reason, is gained
for that reason. -/
theorem gained {was is : Bool} {reason : Prop} (hchanged : was ≠ is)
    (h : is = true ↔ was = true ∨ reason) : was = false ∧ is = true ∧ reason := by
  cases was with
  | true => exact absurd (h.mpr (Or.inl rfl)).symm hchanged
  | false =>
    have his : is = true := by simpa using hchanged.symm
    exact ⟨rfl, his, by simpa using h.mp his⟩

/-- Where a request changes the answer of a check, it reaches it. -/
theorem reaches_changed (h : Effect clock store supply request result after later)
    (hinv : Integrity store) (hnew : ∀ id ∈ supply.drawnUntil later, id ∉ store.ids)
    {query : CheckPermission} {was is : Bool}
    (hwas : UseCase.allows (store.grantsOf query.user query.scopeId) query.permission = was)
    (his : UseCase.allows (after.grantsOf query.user query.scopeId) query.permission = is)
    (hchanged : was ≠ is) : request.Reaches store query was is := by
  -- What is not touched keeps its grants, so only the cases that touch are left.
  by_cases htouches : request.Touches store query.user query.scopeId
  · cases h with
    | refused => exact absurd (hwas.symm.trans his) hchanged
    | answered => exact absurd (hwas.symm.trans his) hchanged
    | created => cases htouches
    | deleted => cases htouches
    | updated => exact ⟨htouches, hinv.role_of_assigned htouches⟩
    | halfUpdated => exact ⟨htouches, hinv.role_of_assigned htouches⟩
    | assigned =>
      have hdrawn := hnew _ (Supply.next_mem_drawnUntil (.refl supply.advance))
      obtain ⟨hless, hmore, hby⟩ := gained hchanged (hwas ▸ his ▸ Store.allows_putAssignment hdrawn)
      exact ⟨hby.1, hby.2, hless, hmore⟩
    | @revoked command assignment hfound =>
      have hkey := Assignment.isFor_iff.mp (List.find?_some hfound)
      simp only [Assignment.key, Prod.mk.injEq] at hkey
      have hstored := List.mem_of_find?_eq_some hfound
      obtain ⟨hless, hmore, hby⟩ :=
        gained hchanged.symm (hwas ▸ his ▸ Store.allows_eraseAssignment hstored)
      rw [hkey.1, hkey.2.1, hkey.2.2] at hby
      exact ⟨hby.1, hby.2, hmore, hless⟩
  · rw [h.grants_kept hinv hnew htouches] at his
    exact absurd (hwas.symm.trans his) hchanged

end Effect

namespace World

/-- A request gets an answer in a world whenever it is asked there, directly or dispatched within
its rules. -/
def Answers (world : World) (request : Request) (answer : Answer) : Prop :=
  ∀ pattern clock direct, (direct = false → Validation.breaches pattern request = []) →
    (step pattern ⟨request, clock, direct⟩ world).1 = .ok (.query answer)

theorem answers_of_run {world : World} {request : Request} {answer : Answer}
    (h : ∀ clock, (request.useCase clock).run world.store world.supply =
      (.ok (.ok (.query answer)), world.store, world.supply)) : world.Answers request answer := by
  intro pattern clock direct hvalid
  have hexecute : (execute (request.useCase clock) world).1 = .ok (.query answer) := by
    rw [execute, h clock]
  cases direct with
  | true => exact hexecute
  | false =>
    rw [step_valid (hvalid rfl)]
    exact hexecute

def checked (world : World) (query : CheckPermission) : Bool :=
  UseCase.allows (world.store.grantsOf query.user query.scopeId) query.permission

theorem answers_check (world : World) (query : CheckPermission) :
    world.Answers (.checkPermission query)
      (.check ⟨world.checked query, query.user, query.scopeId, query.permission⟩) :=
  answers_of_run fun _ => UseCase.checkPermission_run world.store world.supply query

theorem answers_listing (world : World) (query : UserPermissions) :
    world.Answers (.userPermissions query)
      (.actions (UseCase.actionsOf (world.store.grantsOf query.user query.scopeId))) :=
  answers_of_run fun _ => UseCase.userPermissions_run world.store world.supply query

theorem step_reaches_changed {pattern : Pattern} {step : Step} {world : World}
    (hinv : Integrity world.store)
    (hnew : ∀ id ∈ world.supply.drawnUntil (World.step pattern step world).2.supply,
      id ∉ world.store.ids) (query : CheckPermission)
    (hchanged : world.checked query ≠ (World.step pattern step world).2.checked query) :
    step.request.Reaches world.store query (world.checked query)
      ((World.step pattern step world).2.checked query) := by
  rcases step_effect pattern step world with ⟨_, hstep⟩ | ⟨_, heffect⟩
  · rw [hstep] at hchanged
    exact absurd rfl hchanged
  · exact heffect.reaches_changed hinv hnew rfl rfl hchanged

theorem step_keeps_grants {pattern : Pattern} {step : Step} {world : World} {scopeId : Uuid}
    (hinv : Integrity world.store)
    (hnew : ∀ id ∈ world.supply.drawnUntil (World.step pattern step world).2.supply,
      id ∉ world.store.ids)
    (happart : ¬ step.request.WorksIn world.store scopeId) (user : Uuid) :
    (World.step pattern step world).2.store.grantsOf user scopeId =
      world.store.grantsOf user scopeId := by
  rcases step_effect pattern step world with ⟨_, hstep⟩ | ⟨_, heffect⟩
  · rw [hstep]
  · exact heffect.grants_kept hinv hnew fun htouches => happart (hinv.touches_worksIn htouches)

def Avoids (pattern : Pattern) (scopeId : Uuid) : List Step → World → Prop
  | [], _ => True
  | step :: rest, world =>
    ¬ step.request.WorksIn world.store scopeId ∧
      Avoids pattern scopeId rest (World.step pattern step world).2

instance (pattern : Pattern) (scopeId : Uuid) :
    (steps : List Step) → (world : World) → Decidable (Avoids pattern scopeId steps world)
  | [], _ => inferInstanceAs (Decidable True)
  | step :: rest, world =>
    have := instDecidableAvoids pattern scopeId rest (World.step pattern step world).2
    inferInstanceAs (Decidable (_ ∧ _))

/-- A run that avoids a scope id leaves the grants there as they are. -/
theorem Avoids.keeps_grants {pattern : Pattern} {scopeId : Uuid} {steps : List Step}
    {world : World} (h : Avoids pattern scopeId steps world) (hinv : Integrity world.store)
    (hfresh : Fresh (drawn pattern steps world) world.store.ids) (user : Uuid) :
    (after pattern steps world).store.grantsOf user scopeId =
      world.store.grantsOf user scopeId := by
  induction steps generalizing world with
  | nil => rfl
  | cons step rest ih =>
    obtain ⟨happart, hrest⟩ := h
    have hdrawn := drawn_append pattern [step] rest world
    rw [List.singleton_append] at hdrawn
    rw [hdrawn] at hfresh
    have hnew := hfresh.first.absent
    have hlater := hfresh.rest (step_ids pattern step world)
    exact (ih hrest (hinv.step hnew) ⟨hlater.distinct, hlater.absent_left⟩).trans
      (step_keeps_grants hinv hnew happart user)

end World

/-- Where the records have integrity, a step changes the answers of those checks only that its
request reaches, and a run that works nowhere in a scope id changes no check there and no list of
what a user may do there. Steps may be dispatched or direct and may fail; the identifiers drawn are
new. -/
theorem checks_change_only_in_reach (pattern : Pattern) (world : World)
    (hinv : Integrity world.store) :
    (∀ step : World.Step,
      (∀ id ∈ world.supply.drawnUntil (World.step pattern step world).2.supply,
        id ∉ world.store.ids) →
      ∀ query : CheckPermission, ∃ was is,
        world.Answers (.checkPermission query)
          (.check ⟨was, query.user, query.scopeId, query.permission⟩) ∧
        (World.step pattern step world).2.Answers (.checkPermission query)
          (.check ⟨is, query.user, query.scopeId, query.permission⟩) ∧
        (was ≠ is → step.request.Reaches world.store query was is)) ∧
    ∀ (steps : List World.Step) (scopeId : Uuid),
      Fresh (World.drawn pattern steps world) world.store.ids →
      World.Avoids pattern scopeId steps world →
      ∀ user,
        (∀ permission, ∃ allowed,
          world.Answers (.checkPermission ⟨user, scopeId, permission⟩)
            (.check ⟨allowed, user, scopeId, permission⟩) ∧
          (World.after pattern steps world).Answers (.checkPermission ⟨user, scopeId, permission⟩)
            (.check ⟨allowed, user, scopeId, permission⟩)) ∧
        ∃ actions,
          world.Answers (.userPermissions ⟨user, scopeId⟩) (.actions actions) ∧
          (World.after pattern steps world).Answers (.userPermissions ⟨user, scopeId⟩)
            (.actions actions) := by
  refine ⟨?_, ?_⟩
  · intro step hnew query
    exact ⟨_, _, world.answers_check query, World.answers_check _ query,
      World.step_reaches_changed hinv hnew query⟩
  · intro steps scopeId hfresh havoids user
    have hkept := havoids.keeps_grants hinv hfresh user
    refine ⟨?_, ?_⟩
    · intro permission
      refine ⟨_, world.answers_check ⟨user, scopeId, permission⟩, ?_⟩
      have hchecked : (World.after pattern steps world).checked ⟨user, scopeId, permission⟩ =
          world.checked ⟨user, scopeId, permission⟩ := by
        rw [World.checked, World.checked, hkept]
      rw [← hchecked]
      exact World.answers_check _ ⟨user, scopeId, permission⟩
    · refine ⟨_, world.answers_listing ⟨user, scopeId⟩, ?_⟩
      have hlisted := World.answers_listing (World.after pattern steps world) ⟨user, scopeId⟩
      rwa [hkept] at hlisted

/-- Steps in a workspace, by which the reader of the organization gets a role there and loses it. -/
def elsewhere : List World.Step :=
  let workspace : Scope := ⟨.workspace, Uuid.ofNat 8⟩
  [⟨.createRole ⟨"reader", workspace, none, ["doc:read"]⟩, .epoch, false⟩,
    ⟨.assignRole ⟨Uuid.ofNat 101, Uuid.ofNat 4, workspace, Uuid.ofNat 5⟩, .epoch, false⟩,
    ⟨.updateRole ⟨Uuid.ofNat 101, "writer", none, ["doc:write", ""]⟩, .epoch, true⟩,
    ⟨.assignRole ⟨Uuid.ofNat 1, Uuid.ofNat 6, workspace, Uuid.ofNat 5⟩, .epoch, false⟩,
    ⟨.revokeRole ⟨Uuid.ofNat 101, Uuid.ofNat 4, Uuid.ofNat 8⟩, .epoch, false⟩,
    ⟨.deleteRole (Uuid.ofNat 101), .epoch, false⟩]

theorem reader_unchanged_elsewhere :
    let pattern := Pattern.star false (.one .dot)
    let renewal : World.Step :=
      ⟨.updateRole ⟨Uuid.ofNat 1, "writer", none, ["doc:write", ""]⟩, .epoch, true⟩
    let query : CheckPermission := ⟨Uuid.ofNat 4, Uuid.ofNat 7, "doc:read"⟩
    Integrity heldReader.store ∧
      (∀ id ∈ heldReader.supply.drawnUntil (World.step pattern renewal heldReader).2.supply,
        id ∉ heldReader.store.ids) ∧
      Fresh (World.drawn pattern elsewhere heldReader) heldReader.store.ids ∧
      World.Avoids pattern (Uuid.ofNat 7) elsewhere heldReader ∧
      (∃ was is,
        heldReader.Answers (.checkPermission query)
          (.check ⟨was, query.user, query.scopeId, query.permission⟩) ∧
        (World.step pattern renewal heldReader).2.Answers (.checkPermission query)
          (.check ⟨is, query.user, query.scopeId, query.permission⟩) ∧
        (was ≠ is → renewal.request.Reaches heldReader.store query was is)) ∧
      ∃ actions,
        heldReader.Answers (.userPermissions ⟨Uuid.ofNat 4, Uuid.ofNat 7⟩) (.actions actions) ∧
        (World.after pattern elsewhere heldReader).Answers
          (.userPermissions ⟨Uuid.ofNat 4, Uuid.ofNat 7⟩) (.actions actions) := by
  intro pattern renewal query
  have hinv : Integrity heldReader.store := by decide
  have hnew : ∀ id ∈ heldReader.supply.drawnUntil
      (World.step pattern renewal heldReader).2.supply, id ∉ heldReader.store.ids := by
    decide +kernel
  have hfresh : Fresh (World.drawn pattern elsewhere heldReader) heldReader.store.ids := by
    decide +kernel
  have havoids : World.Avoids pattern (Uuid.ofNat 7) elsewhere heldReader := by decide +kernel
  obtain ⟨hstep, hrun⟩ := checks_change_only_in_reach pattern heldReader hinv
  exact ⟨hinv, hnew, hfresh, havoids, hstep renewal hnew query,
    (hrun elsewhere (Uuid.ofNat 7) hfresh havoids (Uuid.ofNat 4)).2⟩

end Rbac
