import Rbac.Proofs.Atomicity
import Rbac.Proofs.Integrity

namespace Rbac

/-- What the latest entry tells that tells anything. -/
def latest? {α : Type} (tells : World.Entry → Option α) (history : List World.Entry) : Option α :=
  history.reverse.findSome? tells

theorem latest_append {α : Type} (tells : World.Entry → Option α) (history : List World.Entry)
    (entry : World.Entry) :
    latest? tells (history ++ [entry]) = (tells entry).or (latest? tells history) := by
  cases h : tells entry with
  | none => simp [latest?, h]
  | some value => simp [latest?, h]

namespace World.Entry

/-- What an entry tells of a role, a user and a scope id: that the role was assigned, or revoked. -/
def grants? (role user scopeId : Uuid) (entry : Entry) : Option Bool :=
  match entry.step.request, entry.result with
  | .assignRole command, .ok _ =>
    if (command.role, command.user, command.scope.id) = (role, user, scopeId) then some true
    else none
  | .revokeRole command, .ok _ =>
    if (command.role, command.user, command.scopeId) = (role, user, scopeId) then some false
    else none
  | _, _ => none

/-- What an entry tells a role permits: the permissions with which it was created or updated. The
role of a creation is the one that it answers with. -/
def permits? (role : Uuid) (entry : Entry) : Option (List Text) :=
  match entry.step.request, entry.result with
  | .createRole command, .ok ⟨.role view, _⟩ =>
    if view.id = role then some command.permissions else none
  | .updateRole command, .ok _ => if command.id = role then some command.permissions else none
  | _, _ => none

theorem grants_of_error (role user scopeId : Uuid) (step : Step) (failure : Failure) :
    grants? role user scopeId ⟨step, .error failure⟩ = none := by
  obtain ⟨request, clock, direct⟩ := step
  cases request <;> rfl

theorem permits_of_error (role : Uuid) (step : Step) (failure : Failure) :
    permits? role ⟨step, .error failure⟩ = none := by
  obtain ⟨request, clock, direct⟩ := step
  cases request <;> rfl

theorem grants_of_asks {request : Request} (h : request.asks = true) (clock : Clock)
    (direct : Bool) (result : Except Failure (Outcome Answer)) (role user scopeId : Uuid) :
    grants? role user scopeId ⟨⟨request, clock, direct⟩, result⟩ = none := by
  cases request with
  | assignRole command => cases h
  | revokeRole command => cases h
  | _ => rfl

theorem permits_of_asks {request : Request} (h : request.asks = true) (clock : Clock)
    (direct : Bool) (result : Except Failure (Outcome Answer)) (role : Uuid) :
    permits? role ⟨⟨request, clock, direct⟩, result⟩ = none := by
  cases request with
  | createRole command => cases h
  | updateRole command => cases h
  | _ => rfl

end World.Entry

open World.Entry

/-- What the records have in common with a history: who holds what is what was assigned and not
revoked since, and a role has the permissions that were asked for it last. -/
structure Recalls (store : Store) (history : List World.Entry) : Prop where
  held : ∀ role user scopeId, store.isAssigned role user scopeId = true ↔
    latest? (grants? role user scopeId) history = some true
  permitted : ∀ role ∈ store.roles.rows, ∃ actions,
    latest? (permits? role.id) history = some actions ∧
      ∀ action, action ∈ role.actions ↔ action ∈ actions

namespace Recalls

variable {store : Store} {history : List World.Entry} {entry : World.Entry}

theorem held_silent (h : Recalls store history)
    (hgrants : ∀ role user scopeId, grants? role user scopeId entry = none) :
    ∀ role user scopeId, store.isAssigned role user scopeId = true ↔
      latest? (grants? role user scopeId) (history ++ [entry]) = some true := by
  intro role user scopeId
  rw [latest_append, hgrants, Option.none_or]
  exact h.held role user scopeId

theorem permitted_silent (h : Recalls store history)
    (hpermits : ∀ role, permits? role entry = none) :
    ∀ role ∈ store.roles.rows, ∃ actions,
      latest? (permits? role.id) (history ++ [entry]) = some actions ∧
        ∀ action, action ∈ role.actions ↔ action ∈ actions := by
  intro role hrole
  rw [latest_append, hpermits, Option.none_or]
  exact h.permitted role hrole

theorem silent (h : Recalls store history)
    (hgrants : ∀ role user scopeId, grants? role user scopeId entry = none)
    (hpermits : ∀ role, permits? role entry = none) : Recalls store (history ++ [entry]) :=
  ⟨h.held_silent hgrants, h.permitted_silent hpermits⟩

theorem put_role (h : Recalls store history) {role : Role} {actions : List Text}
    (hgrants : ∀ role user scopeId, grants? role user scopeId entry = none)
    (hpermits : ∀ id, permits? id entry = if role.id = id then some actions else none)
    (hactions : ∀ action, action ∈ role.actions ↔ action ∈ actions) :
    Recalls (store.putRole role) (history ++ [entry]) := by
  refine ⟨h.held_silent hgrants, ?_⟩
  intro other ho
  rw [latest_append, hpermits]
  rcases Table.mem_put.mp ho with rfl | ⟨hold, hne⟩
  · exact ⟨actions, by simp, hactions⟩
  · have hapart : role.id ≠ other.id := fun he => hne he.symm
    rw [if_neg hapart, Option.none_or]
    exact h.permitted other hold

theorem erase_role (h : Recalls store history) (id : Uuid)
    (hgrants : ∀ role user scopeId, grants? role user scopeId entry = none)
    (hpermits : ∀ role, permits? role entry = none) :
    Recalls (store.eraseRole id) (history ++ [entry]) :=
  ⟨h.held_silent hgrants,
    fun role hrole => h.permitted_silent hpermits role (Table.mem_erase.mp hrole).1⟩

theorem put_assignment (h : Recalls store history) {assignment : Assignment}
    (hnew : assignment.id ∉ store.ids)
    (hgrants : ∀ role user scopeId, grants? role user scopeId entry =
      if assignment.key = (role, user, scopeId) then some true else none)
    (hpermits : ∀ role, permits? role entry = none) :
    Recalls (store.putAssignment assignment) (history ++ [entry]) := by
  refine ⟨?_, h.permitted_silent hpermits⟩
  intro role user scopeId
  rw [latest_append, hgrants, Store.isAssigned_putAssignment hnew]
  by_cases hk : assignment.key = (role, user, scopeId)
  · simp only [hk, if_true, Option.some_or, true_or]
  · simp only [hk, if_false, Option.none_or, false_or, h.held]

/-- An entry that tells that a role is revoked. Its key was held once, so nobody holds it now. -/
theorem erase_assignment (h : Recalls store history) (hinv : Integrity store)
    {assignment : Assignment} (hstored : assignment ∈ store.assignments.rows)
    (hgrants : ∀ role user scopeId, grants? role user scopeId entry =
      if assignment.key = (role, user, scopeId) then some false else none)
    (hpermits : ∀ role, permits? role entry = none) :
    Recalls (store.eraseAssignment assignment.id) (history ++ [entry]) := by
  refine ⟨?_, h.permitted_silent hpermits⟩
  intro role user scopeId
  rw [latest_append, hgrants]
  by_cases hk : assignment.key = (role, user, scopeId)
  · simp only [hk, if_true, Option.some_or, Option.some.injEq, Bool.false_eq_true, iff_false]
    rw [Store.isAssigned_iff]
    rintro ⟨other, ho, hother⟩
    obtain ⟨hold, hne⟩ := Table.mem_erase.mp ho
    exact hne (by rw [hinv.unique other hold assignment hstored (hother.trans hk.symm)])
  · rw [if_neg hk, Option.none_or, ← h.held, Store.isAssigned_eraseAssignment hstored]
    simp only [hk, false_or]

/-- A request that succeeds tells what it has done, and the records recall it. -/
theorem effect {clock : Clock} {after : Store} {supply later : Supply} {request : Request}
    {outcome : Outcome Answer} {direct : Bool} (h : Recalls store history) (hinv : Integrity store)
    (heffect : Effect clock store supply request (.ok outcome) after later)
    (hnew : ∀ id ∈ supply.drawnUntil later, id ∉ store.ids) :
    Recalls after (history ++ [⟨⟨request, clock, direct⟩, .ok outcome⟩]) := by
  cases heffect with
  | answered answer hasks =>
    exact h.silent (grants_of_asks hasks clock direct _) (permits_of_asks hasks clock direct _)
  | @created command role _ _ hadd =>
    obtain ⟨hrole, _⟩ := Effect.created_role hadd
    apply h.put_role (fun _ _ _ => rfl) (fun _ => rfl)
    intro action
    rw [hrole, Role.actions_extend, Permission.series_actions]
    exact Iff.rfl
  | @updated command old role _ _ hfound _ hs hsync =>
    have hid : old.id = command.id := (Table.find_iff.mp hfound).2
    obtain ⟨new, hrole, _⟩ := Effect.synced_role hs hsync
    have hsame : role.id = command.id := by rw [hrole, ← hid]; rfl
    apply h.put_role (fun _ _ _ => rfl) (fun _ => by rw [hsame]; rfl)
    intro action
    exact Effect.synced_actions hs hsync
  | deleted => exact h.erase_role _ (fun _ _ _ => rfl) (fun _ => rfl)
  | assigned =>
    have hdrawn := hnew _ (Supply.next_mem_drawnUntil (.refl supply.advance))
    exact h.put_assignment hdrawn (fun _ _ _ => rfl) (fun _ => rfl)
  | @revoked command assignment hfound =>
    have hkey := Assignment.isFor_iff.mp (List.find?_some hfound)
    exact h.erase_assignment hinv (List.mem_of_find?_eq_some hfound)
      (fun _ _ _ => by rw [hkey]; rfl) (fun _ => rfl)

/-- A dispatched step keeps what the records recall, also when it fails: it has then changed
nothing. -/
theorem step {pattern : Pattern} {world : World} {request : Request} {clock : Clock}
    (h : Recalls world.store history) (hinv : Integrity world.store)
    (hnew : ∀ id ∈ world.supply.drawnUntil
      (World.step pattern ⟨request, clock, false⟩ world).2.supply, id ∉ world.store.ids) :
    Recalls (World.step pattern ⟨request, clock, false⟩ world).2.store
      (history ++ [⟨⟨request, clock, false⟩,
        (World.step pattern ⟨request, clock, false⟩ world).1⟩]) := by
  rcases World.step_cases pattern request clock false world with
    ⟨_, errors, hstep⟩ | ⟨result, after, later, hvalid, hstep, heffect⟩
  · rw [hstep]
    exact h.silent (fun _ _ _ => grants_of_error ..) (fun _ => permits_of_error ..)
  · rw [hstep] at hnew ⊢
    simp only [World.tell_store, World.tell_supply, World.settled_store,
      World.settled_supply] at hnew ⊢
    cases result with
    | error failure =>
      obtain ⟨_, rfl⟩ := heffect.of_error (hvalid rfl)
      exact h.silent (fun _ _ _ => grants_of_error ..) (fun _ => permits_of_error ..)
    | ok outcome => exact h.effect hinv heffect hnew

end Recalls

theorem UseCase.mem_actionsOf {grants : List Grant} {action : Text} :
    action ∈ actionsOf grants ↔ allows grants action = true := by
  simp only [actionsOf, List.mem_eraseDups, List.mem_flatMap, allows, List.any_eq_true]
  constructor
  · rintro ⟨grant, hgrant, haction⟩
    cases hrole : grant.role with
    | none => simp [hrole] at haction
    | some role =>
      rw [hrole] at haction
      exact ⟨grant, hgrant, by simpa [hrole] using Role.has_iff.mpr haction⟩
  · rintro ⟨grant, hgrant, hallowed⟩
    cases hrole : grant.role with
    | none => simp [hrole] at hallowed
    | some role =>
      rw [hrole] at hallowed
      exact ⟨grant, hgrant, by simpa [hrole] using Role.has_iff.mp hallowed⟩

theorem UseCase.allows_iff {store : Store} {user scopeId : Uuid} {action : Text} :
    allows (store.grantsOf user scopeId) action = true ↔
      ∃ role stored, store.isAssigned role user scopeId = true ∧
        store.role? role = some stored ∧ action ∈ stored.actions := by
  constructor
  · intro h
    obtain ⟨grant, hgrant, hrole⟩ := List.any_eq_true.mp h
    obtain ⟨assignment, hassignment, rfl⟩ := List.mem_map.mp hgrant
    obtain ⟨hstored, hfor⟩ := List.mem_filter.mp (List.mem_mergeSort.mp hassignment)
    simp only [Bool.and_eq_true, decide_eq_true_eq] at hfor
    have hassigned : store.isAssigned assignment.role user scopeId = true :=
      Store.isAssigned_iff.mpr ⟨assignment, hstored, by rw [Assignment.key, hfor.1, hfor.2]⟩
    cases hfound : store.role? assignment.role with
    | none => simp [Store.load, hfound] at hrole
    | some stored =>
      have hhas : stored.has action = true := by simpa [Store.load, hfound] using hrole
      exact ⟨assignment.role, stored, hassigned, hfound, Role.has_iff.mp hhas⟩
  · rintro ⟨role, stored, hassigned, hfound, haction⟩
    obtain ⟨assignment, hstored, hkey⟩ := Store.isAssigned_iff.mp hassigned
    simp only [Assignment.key, Prod.mk.injEq] at hkey
    obtain ⟨rfl, rfl, rfl⟩ := hkey
    refine List.any_eq_true.mpr ⟨store.load assignment, List.mem_map.mpr ⟨assignment, ?_, rfl⟩, ?_⟩
    · exact List.mem_mergeSort.mpr (List.mem_filter.mpr ⟨hstored, by simp⟩)
    · simp only [Store.load, hfound, Option.any_some]
      exact Role.has_iff.mpr haction

/-- Whether a history ends with the user holding a role in the scope id that permits the action. -/
def Entitles (history : List World.Entry) (user scopeId : Uuid) (action : Text) : Prop :=
  ∃ role actions, latest? (grants? role user scopeId) history = some true ∧
    latest? (permits? role) history = some actions ∧ action ∈ actions

theorem Recalls.allows_iff {store : Store} {history : List World.Entry}
    (h : Recalls store history) (hinv : Integrity store) {user scopeId : Uuid} {action : Text} :
    UseCase.allows (store.grantsOf user scopeId) action = true ↔
      Entitles history user scopeId action := by
  rw [UseCase.allows_iff]
  constructor
  · rintro ⟨role, stored, hassigned, hfound, haction⟩
    obtain ⟨hstored, rfl⟩ := Table.find_iff.mp hfound
    obtain ⟨actions, hlatest, hactions⟩ := h.permitted stored hstored
    exact ⟨stored.id, actions, (h.held _ _ _).mp hassigned, hlatest, (hactions action).mp haction⟩
  · -- The history still tells what a deleted role permits; this one is held, so it is stored.
    rintro ⟨role, actions, hgranted, hpermits, haction⟩
    have hassigned := (h.held role user scopeId).mpr hgranted
    obtain ⟨assignment, hassignment, hkey⟩ := Store.isAssigned_iff.mp hassigned
    obtain ⟨stored, hstored, hid, _⟩ := hinv.in_scope assignment hassignment
    have hrole : stored.id = role := hid.trans (Prod.mk.inj hkey).1
    obtain ⟨latest, hlatest, hactions⟩ := h.permitted stored hstored
    rw [hrole, hpermits] at hlatest
    obtain rfl := Option.some.inj hlatest
    exact ⟨role, stored, hassigned, Table.find_iff.mpr ⟨hstored, hrole⟩,
      (hactions action).mpr haction⟩

/-- A run of dispatched requests from nothing leaves records that recall its history. -/
theorem recalls_after {pattern : Pattern} {supply : Supply} {steps : List World.Step}
    (hdispatched : ∀ step ∈ steps, step.direct = false)
    (hdistinct : (World.drawn pattern steps (.blank supply)).Nodup) :
    Integrity (World.after pattern steps (.blank supply)).store ∧
      Recalls (World.after pattern steps (.blank supply)).store
        (World.history pattern steps (.blank supply)) := by
  apply World.run_induction (P := fun entries world => Integrity world.store ∧
    Recalls world.store entries) (World.fresh_blank hdistinct)
  · refine ⟨.empty, ?_, ?_⟩
    · intro role user scopeId
      exact iff_of_false Bool.false_ne_true (by simp [latest?])
    · intro _ hin
      cases hin
  · rintro entries ⟨request, clock, direct⟩ world hin ⟨hinv, hrecalls⟩ _ hfresh
    obtain rfl : direct = false := hdispatched _ hin
    exact ⟨hinv.step hfresh.absent_left, hrecalls.step hinv hfresh.absent_left⟩

/-- What a check answers at the end of a run of dispatched requests from nothing is decided by the
history of the run: whether some role was assigned to the user in the scope id after it was last
revoked, and permits the action by its latest creation or update. -/
theorem check_answers_history (pattern : Pattern) (supply : Supply) (steps : List World.Step)
    (query : CheckPermission) (clock : Clock)
    (hdispatched : ∀ step ∈ steps, step.direct = false)
    (hdistinct : (World.drawn pattern steps (.blank supply)).Nodup)
    (hvalid : Validation.breaches pattern (.checkPermission query) = []) :
    ∃ allowed,
      (World.step pattern ⟨.checkPermission query, clock, false⟩
        (World.after pattern steps (.blank supply))).1 =
          .ok (.query (.check ⟨allowed, query.user, query.scopeId, query.permission⟩)) ∧
      (allowed = true ↔ Entitles (World.history pattern steps (.blank supply)) query.user
        query.scopeId query.permission) := by
  obtain ⟨hinv, hrecalls⟩ := recalls_after hdispatched hdistinct
  refine ⟨_, ?_, hrecalls.allows_iff hinv⟩
  rw [World.step_valid hvalid]
  simp only [World.execute, Request.useCase, UseCase.checkPermission_run]

theorem check_answers_trial :
    let pattern := Pattern.star false (.one .dot)
    let query : CheckPermission := ⟨Uuid.ofNat 4, Uuid.ofNat 7, "doc:share"⟩
    (∀ step ∈ World.trial, step.direct = false) ∧
      (World.drawn pattern World.trial (.blank (.after 100))).Nodup ∧
      Validation.breaches pattern (.checkPermission query) = [] ∧
      ∃ allowed,
        (World.step pattern ⟨.checkPermission query, .epoch, false⟩
          (World.after pattern World.trial (.blank (.after 100)))).1 =
            .ok (.query (.check ⟨allowed, query.user, query.scopeId, query.permission⟩)) ∧
        (allowed = true ↔ Entitles (World.history pattern World.trial (.blank (.after 100)))
          query.user query.scopeId query.permission) := by
  intro pattern query
  have hdispatched : ∀ step ∈ World.trial, step.direct = false := by decide +kernel
  have hdistinct : (World.drawn pattern World.trial (.blank (.after 100))).Nodup := by
    decide +kernel
  have hvalid : Validation.breaches pattern (.checkPermission query) = [] := by decide +kernel
  have hanswers := check_answers_history pattern (.after 100) World.trial query .epoch
    hdispatched hdistinct hvalid
  exact ⟨hdispatched, hdistinct, hvalid, hanswers⟩

end Rbac
