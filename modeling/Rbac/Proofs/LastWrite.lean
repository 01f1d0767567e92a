import Rbac.Proofs.History
import Rbac.Proofs.Naming

namespace Rbac

namespace World.Entry

/-- How an entry leaves a role: as the creation or the update answered, or gone. -/
def leaves? (id : Uuid) (entry : Entry) : Option (Option RoleView) :=
  match entry.step.request, entry.result with
  | .createRole _, .ok ⟨.role view, _⟩ => if view.id = id then some (some view) else none
  | .updateRole command, .ok ⟨.role view, _⟩ => if command.id = id then some (some view) else none
  | .deleteRole deleted, .ok _ => if deleted = id then some none else none
  | _, _ => none

theorem leaves_of_error (id : Uuid) (step : Step) (failure : Failure) :
    leaves? id ⟨step, .error failure⟩ = none := by
  obtain ⟨request, clock, direct⟩ := step
  cases request <;> rfl

theorem leaves_of_asks {request : Request} (h : request.asks = true) (clock : Clock)
    (direct : Bool) (result : Except Failure (Outcome Answer)) (id : Uuid) :
    leaves? id ⟨⟨request, clock, direct⟩, result⟩ = none := by
  cases request with
  | createRole command => cases h
  | updateRole command => cases h
  | deleteRole deleted => cases h
  | _ => rfl

end World.Entry

open World.Entry

/-- The role as the latest entry about it has left it; nothing if it never came or is gone. -/
def lastView? (history : List World.Entry) (id : Uuid) : Option RoleView :=
  (latest? (leaves? id) history).join

theorem lastView_append (history : List World.Entry) (entry : World.Entry) (id : Uuid) :
    lastView? (history ++ [entry]) id = ((leaves? id entry).getD (lastView? history id)) := by
  rw [lastView?, latest_append]
  cases leaves? id entry with
  | none => rfl
  | some view => rfl

/-- The roles in the records are those that the history has left, each shown as it was left. -/
structure Shows (store : Store) (history : List World.Entry) : Prop where
  shown : ∀ id, (store.role? id).map Role.view = lastView? history id
  names : store.OwnNames

namespace Shows

variable {store : Store} {history : List World.Entry} {entry : World.Entry}

theorem silent (h : Shows store history) (hleaves : ∀ id, leaves? id entry = none) :
    Shows store (history ++ [entry]) := by
  refine ⟨?_, h.names⟩
  intro id
  rw [lastView_append, hleaves]
  exact h.shown id

theorem put_role (h : Shows store history) {role : Role}
    (hfree : store.nameTaken role.name role.scope (some role.id) = false)
    (hleaves : ∀ id, leaves? id entry = if role.id = id then some (some role.view) else none) :
    Shows (store.putRole role) (history ++ [entry]) := by
  refine ⟨?_, h.names.put_role hfree⟩
  intro id
  have hfind : (store.putRole role).role? id = if role.id = id then some role else store.role? id :=
    Table.find_put store.roles role id
  rw [hfind, lastView_append, hleaves]
  by_cases hid : role.id = id
  · simp [hid]
  · simpa [hid] using h.shown id

theorem erase_role (h : Shows store history) {gone : Uuid}
    (hleaves : ∀ id, leaves? id entry = if gone = id then some none else none) :
    Shows (store.eraseRole gone) (history ++ [entry]) := by
  refine ⟨?_, h.names.erase_role gone⟩
  intro id
  have hfind : (store.eraseRole gone).role? id = if gone = id then none else store.role? id :=
    Table.find_erase store.roles gone id
  rw [hfind, lastView_append, hleaves]
  by_cases hid : gone = id
  · simp [hid]
  · simpa [hid] using h.shown id

/-- A request that keeps its rules leaves each role as it answers. -/
theorem effect {clock : Clock} {after : Store} {supply later : Supply} {pattern : Pattern}
    {request : Request} {result : Except Failure (Outcome Answer)} (h : Shows store history)
    (hvalid : Validation.breaches pattern request = [])
    (heffect : Effect clock store supply request result after later) :
    Shows after (history ++ [⟨⟨request, clock, false⟩, result⟩]) := by
  cases heffect with
  | refused => exact h.silent fun id => leaves_of_error id _ _
  | answered _ hasks => exact h.silent fun id => leaves_of_asks hasks clock false _ id
  | created hfree hadd =>
    obtain ⟨rfl, _⟩ := Effect.created_role hadd
    exact h.put_role (Store.nameFree_except hfree _) fun _ => rfl
  | @updated command old role _ _ hfound hfree hs hsync =>
    have hid : old.id = command.id := (Table.find_iff.mp hfound).2
    obtain ⟨new, rfl, _⟩ := Effect.synced_role hs hsync
    apply h.put_role hfree
    intro id
    change (if command.id = id then _ else _) = if old.id = id then _ else _
    rw [hid]
  | halfUpdated _ _ hs hstopped =>
    exact (Effect.not_half (Validation.updateRole_blank hvalid) hs hstopped).elim
  | deleted => exact h.erase_role fun _ => rfl
  | assigned => exact ⟨fun id => (h.silent fun _ => rfl).shown id, h.names⟩
  | revoked => exact ⟨fun id => (h.silent fun _ => rfl).shown id, h.names⟩

theorem step {pattern : Pattern} {request : Request} {clock : Clock} {world : World}
    (h : Shows world.store history) :
    Shows (World.step pattern ⟨request, clock, false⟩ world).2.store
      (history ++ [⟨⟨request, clock, false⟩,
        (World.step pattern ⟨request, clock, false⟩ world).1⟩]) := by
  rcases World.step_effect pattern ⟨request, clock, false⟩ world with
    ⟨_, hstep⟩ | ⟨hvalid, heffect⟩
  · rw [hstep]
    exact h.silent fun id => leaves_of_error id _ _
  · exact h.effect (hvalid rfl) heffect

theorem run {pattern : Pattern} {supply : Supply} {steps : List World.Step}
    (hdispatched : ∀ step ∈ steps, step.direct = false) :
    Shows (World.after pattern steps (.blank supply)).store
      (World.history pattern steps (.blank supply)) := by
  apply World.run_preserves (P := fun entries world => Shows world.store entries)
  · exact ⟨fun _ => rfl, .empty⟩
  · rintro entries ⟨request, clock, direct⟩ world hin hshows
    obtain rfl : direct = false := hdispatched _ hin
    exact hshows.step

theorem mem_listed (h : Shows store history) {scope : Scope} {view : RoleView} :
    view ∈ (UseCase.byName (store.rolesIn scope)).map Role.view ↔
      view.scope = scope ∧ ∃ id, lastView? history id = some view := by
  have hlisted : ∀ role, role ∈ UseCase.byName (store.rolesIn scope) ↔
      role ∈ store.roles.rows ∧ role.scope = scope := by
    intro role
    rw [UseCase.byName, List.mem_mergeSort]
    simp [Store.rolesIn]
  constructor
  · intro hin
    obtain ⟨role, hrole, rfl⟩ := List.mem_map.mp hin
    obtain ⟨hstored, hscope⟩ := (hlisted role).mp hrole
    have hfound : store.role? role.id = some role := Table.find_iff.mpr ⟨hstored, rfl⟩
    exact ⟨hscope, role.id, by rw [← h.shown, hfound, Option.map_some]⟩
  · rintro ⟨hscope, id, hlast⟩
    rw [← h.shown] at hlast
    obtain ⟨role, hfound, rfl⟩ := Option.map_eq_some_iff.mp hlast
    have hstored := (Table.find_iff.mp hfound).1
    exact List.mem_map.mpr ⟨role, (hlisted role).mpr ⟨hstored, hscope⟩, rfl⟩

end Shows

namespace World

theorem getRole_answer (pattern : Pattern) (id : Uuid) (clock : Clock) (world : World) :
    (step pattern ⟨.getRole id, clock, false⟩ world).1 =
      match (world.store.role? id).map Role.view with
      | some view => .ok (.query (.role view))
      | none => .error (.roleMissing id) := by
  have hvalid : Validation.breaches pattern (.getRole id) = [] := rfl
  rw [step_valid hvalid]
  simp only [execute, Request.useCase, UseCase.getRole_run]
  cases world.store.role? id with
  | none => rfl
  | some role => rfl

theorem listRoles_answer (pattern : Pattern) (scope : Scope) (clock : Clock) (world : World) :
    (step pattern ⟨.listRoles scope, clock, false⟩ world).1 =
      .ok (.query (.roles ((UseCase.byName (world.store.rolesIn scope)).map Role.view))) := by
  have hvalid : Validation.breaches pattern (.listRoles scope) = [] := rfl
  rw [step_valid hvalid]
  simp only [execute, Request.useCase, UseCase.listRoles_run]

end World

/-- After a run of dispatched requests from nothing, reading a role answers what its latest creation
or update has answered, and that it is missing if it never came or is gone since. Listing a scope
answers with all such answers about roles of the scope, each role once, in strictly ascending order
of the code points of their names. -/
theorem reads_answer_last_write (pattern : Pattern) (supply : Supply) (steps : List World.Step)
    (hdispatched : ∀ step ∈ steps, step.direct = false) (clock : Clock) :
    let history := World.history pattern steps (.blank supply)
    let answer := fun request =>
      (World.step pattern ⟨request, clock, false⟩ (World.after pattern steps (.blank supply))).1
    (∀ id, answer (.getRole id) =
      match lastView? history id with
      | some view => .ok (.query (.role view))
      | none => .error (.roleMissing id)) ∧
    ∀ scope, ∃ views, answer (.listRoles scope) = .ok (.query (.roles views)) ∧
      (∀ view, view ∈ views ↔ view.scope = scope ∧ ∃ id, lastView? history id = some view) ∧
      (views.map (·.id)).Nodup ∧
      views.Pairwise fun a b => List.Lex (· < ·) (Text.values a.name) (Text.values b.name) := by
  intro history answer
  have hshows : Shows (World.after pattern steps (.blank supply)).store history :=
    Shows.run hdispatched
  refine ⟨?_, ?_⟩
  · intro id
    rw [← hshows.shown]
    exact World.getRole_answer pattern id clock _
  · intro scope
    refine ⟨_, World.listRoles_answer pattern scope clock _, fun _ => hshows.mem_listed, ?_, ?_⟩
    · rw [List.map_map]
      apply ((List.mergeSort_perm _ _).map _).nodup_iff.mpr
      exact (Table.keys_nodup _).sublist (List.filter_sublist.map _)
    · rw [List.pairwise_map]
      exact hshows.names.listed_ascending scope

theorem reads_answer_last_write_trial :
    let pattern := Pattern.star false (.one .dot)
    let steps := World.trial.take 8
    (∀ step ∈ steps, step.direct = false) ∧
      let history := World.history pattern steps (.blank (.after 100))
      (lastView? history (Uuid.ofNat 101)).map (·.name) = some "author" ∧
      (World.step pattern ⟨.getRole (Uuid.ofNat 101), .epoch, false⟩
        (World.after pattern steps (.blank (.after 100)))).1 =
        match lastView? history (Uuid.ofNat 101) with
        | some view => .ok (.query (.role view))
        | none => .error (.roleMissing (Uuid.ofNat 101)) := by
  intro pattern steps
  have hdispatched : ∀ step ∈ steps, step.direct = false := by decide +kernel
  exact ⟨hdispatched, by decide +kernel,
    (reads_answer_last_write pattern (.after 100) steps hdispatched .epoch).1 (Uuid.ofNat 101)⟩

end Rbac
