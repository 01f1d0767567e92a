import Rbac.Proofs.Runs

namespace Rbac

/-- Whether a request would alter a role: update it or delete it. -/
def Request.Alters (role : Uuid) : Request → Prop
  | .updateRole command => command.id = role
  | .deleteRole id => id = role
  | _ => False

def Change.Alters (role : Uuid) : Change → Prop
  | .roleUpdated id _ | .roleDeleted id => id = role
  | _ => False

/-- An entry that leaves a role alone: what would alter the role has failed, and no event of the
entry tells that it was altered. -/
def World.Entry.Spares (role : Uuid) (entry : World.Entry) : Prop :=
  (entry.step.request.Alters role → ∃ failure, entry.result = .error failure) ∧
    ∀ event ∈ World.told entry.result, ¬ event.change.Alters role

namespace Effect

variable {clock : Clock} {store after : Store} {supply later : Supply} {request : Request}
  {result : Except Failure (Outcome Answer)} {role : Role}

theorem system_kept_by_put {id : Uuid} {old new : Role} (hfound : store.role? id = some old)
    (hs : old.isSystem = false) (hid : new.id = old.id) (hrole : role ∈ store.roles.rows)
    (hsystem : role.isSystem = true) : role ∈ (store.putRole new).roles.rows := by
  obtain ⟨hold, _⟩ := Table.find_iff.mp hfound
  apply Table.mem_put.mpr
  refine Or.inr ⟨hrole, ?_⟩
  intro he
  rw [Table.key_inj hrole hold (he.trans hid), hs] at hsystem
  cases hsystem

/-- Whatever a request does, it leaves a system role as it is. -/
theorem system_kept (h : Effect clock store supply request result after later)
    (hrole : role ∈ store.roles.rows) (hsystem : role.isSystem = true)
    (hnew : ∀ id ∈ supply.drawnUntil later, id ∉ store.ids) : role ∈ after.roles.rows := by
  cases h with
  | refused => exact hrole
  | answered => exact hrole
  | @created command _ _ _ hadd =>
    obtain ⟨rfl, rfl⟩ := created_role hadd
    have hdrawn := Supply.next_mem_drawnUntil
      (supply.advance.reaches_skip command.permissions.length)
    apply Table.mem_put.mpr
    refine Or.inr ⟨hrole, ?_⟩
    intro he
    have hid : role.id = supply.next := he
    exact hnew _ hdrawn (hid ▸ Store.role_id_mem hrole)
  | updated hfound _ hs hsync =>
    obtain ⟨new, rfl, _⟩ := synced_role hs hsync
    exact system_kept_by_put hfound hs rfl hrole hsystem
  | halfUpdated hfound _ hs hsync =>
    obtain ⟨new, rfl, _⟩ := synced_role hs hsync
    exact system_kept_by_put hfound hs rfl hrole hsystem
  | @deleted deleted hfound _ hs =>
    obtain ⟨hstored, _⟩ := Table.find_iff.mp hfound
    apply Table.mem_erase.mpr
    refine ⟨hrole, ?_⟩
    intro he
    rw [Table.key_inj hrole hstored he, hs] at hsystem
    cases hsystem
  | assigned => exact hrole
  | revoked => exact hrole

theorem system_old (h : Effect clock store supply request result after later)
    (hrole : role ∈ after.roles.rows) (hsystem : role.isSystem = true) :
    role ∈ store.roles.rows := by
  have hput : ∀ new : Role, new.isSystem = false → role ∈ (store.putRole new).roles.rows →
      role ∈ store.roles.rows := by
    intro new hopen hin
    rcases Table.mem_put.mp hin with rfl | ⟨hold, _⟩
    · rw [hopen] at hsystem
      cases hsystem
    · exact hold
  cases h with
  | refused => exact hrole
  | answered => exact hrole
  | created _ hadd =>
    obtain ⟨rfl, _⟩ := created_role hadd
    exact hput _ rfl hrole
  | updated _ _ hs hsync =>
    obtain ⟨new, rfl, _⟩ := synced_role hs hsync
    refine hput _ ?_ hrole
    exact hs
  | halfUpdated _ _ hs hsync =>
    obtain ⟨new, rfl, _⟩ := synced_role hs hsync
    refine hput _ ?_ hrole
    exact hs
  | deleted => exact (Table.mem_erase.mp hrole).1
  | assigned => exact hrole
  | revoked => exact hrole

theorem alteration_fails (h : Effect clock store supply request result after later)
    (hrole : role ∈ store.roles.rows) (hsystem : role.isSystem = true)
    (halters : request.Alters role.id) : ∃ failure, result = .error failure := by
  cases h with
  | refused => exact ⟨_, rfl⟩
  | answered _ hasks => cases request <;> cases hasks <;> cases halters
  | created => cases halters
  | updated hfound _ hs =>
    obtain ⟨hold, hid⟩ := Table.find_iff.mp hfound
    rw [Table.key_inj hrole hold (halters.symm.trans hid.symm), hs] at hsystem
    cases hsystem
  | halfUpdated => exact ⟨_, rfl⟩
  | deleted hfound _ hs =>
    obtain ⟨hstored, _⟩ := Table.find_iff.mp hfound
    rw [Table.key_inj hrole hstored halters.symm, hs] at hsystem
    cases hsystem
  | assigned => cases halters
  | revoked => cases halters

theorem asked_of_told {id : Uuid} (h : Effect clock store supply request result after later) :
    ∀ event ∈ World.told result, event.change.Alters id → request.Alters id := by
  intro event hevent halters
  cases h with
  | refused => cases hevent
  | answered => cases hevent
  | halfUpdated => cases hevent
  | created =>
    rw [List.mem_singleton.mp hevent] at halters
    cases halters
  | updated hfound _ hs hsync =>
    obtain ⟨_, hid⟩ := Table.find_iff.mp hfound
    obtain ⟨new, rfl, _⟩ := synced_role hs hsync
    rw [List.mem_singleton.mp hevent] at halters
    exact hid.symm.trans halters
  | deleted =>
    rw [List.mem_singleton.mp hevent] at halters
    exact halters
  | assigned =>
    rw [List.mem_singleton.mp hevent] at halters
    cases halters
  | revoked =>
    rw [List.mem_singleton.mp hevent] at halters
    cases halters

end Effect

namespace World

/-- A step leaves a system role as it is and its entry spares it; what it publishes are events of
that entry. -/
theorem step_spares {pattern : Pattern} {step : Step} {world : World} {role : Role}
    (hrole : role ∈ world.store.roles.rows) (hsystem : role.isSystem = true)
    (hnew : ∀ id ∈ world.supply.drawnUntil (World.step pattern step world).2.supply,
      id ∉ world.store.ids) :
    role ∈ (World.step pattern step world).2.store.roles.rows ∧
      Entry.Spares role.id ⟨step, (World.step pattern step world).1⟩ ∧
      ∃ events, (World.step pattern step world).2.published = world.published ++ events ∧
        ∀ event ∈ events, event ∈ told (World.step pattern step world).1 := by
  obtain ⟨request, clock, direct⟩ := step
  rcases step_cases pattern request clock direct world with
    ⟨_, errors, hstep⟩ | ⟨result, after, later, _, hstep, heffect⟩
  · rw [hstep]
    exact ⟨hrole, ⟨fun _ => ⟨_, rfl⟩, fun _ hin => nomatch hin⟩, [], by simp,
      fun _ hin => nomatch hin⟩
  · rw [hstep] at hnew ⊢
    simp only [tell_store, tell_supply, settled_store, settled_supply] at hnew ⊢
    have hfails := heffect.alteration_fails hrole hsystem
    refine ⟨heffect.system_kept hrole hsystem hnew, ⟨hfails, ?_⟩, _,
      by rw [tell_published, settled_published], ?_⟩
    · intro event hevent halters
      obtain ⟨failure, rfl⟩ := hfails (heffect.asked_of_told event hevent halters)
      cases hevent
    · cases direct with
      | true => exact fun _ hin => nomatch hin
      | false => exact fun _ hin => hin

theorem step_makes_no_system (pattern : Pattern) (step : Step) (world : World) {role : Role}
    (hrole : role ∈ (World.step pattern step world).2.store.roles.rows)
    (hsystem : role.isSystem = true) : role ∈ world.store.roles.rows := by
  rcases step_effect pattern step world with ⟨_, hstep⟩ | ⟨_, heffect⟩
  · rwa [hstep] at hrole
  · exact heffect.system_old hrole hsystem

/-- One more step of a run: the world after it is the one that the step makes, or the run was over
before. -/
theorem after_take_succ (pattern : Pattern) (steps : List Step) (start : World) (n : Nat) :
    (∃ step, after pattern (steps.take (n + 1)) start =
        (World.step pattern step (after pattern (steps.take n) start)).2) ∨
      after pattern (steps.take (n + 1)) start = after pattern (steps.take n) start := by
  rw [List.take_add_one]
  cases steps[n]? with
  | none => exact Or.inr (by simp)
  | some step => exact Or.inl ⟨step, by simp [after]⟩

end World

/-- What holds of a system role throughout a run. -/
structure Untouched (role : Role) (start : World) (entries : List World.Entry) (world : World) :
    Prop where
  stored : role ∈ world.store.roles.rows
  spared : ∀ entry ∈ entries, entry.Spares role.id
  untold : ∃ events, world.published = start.published ++ events ∧
    ∀ event ∈ events, ¬ event.change.Alters role.id

theorem Untouched.step {pattern : Pattern} {step : World.Step} {start world : World} {role : Role}
    {entries : List World.Entry} (h : Untouched role start entries world)
    (hsystem : role.isSystem = true)
    (hnew : ∀ id ∈ world.supply.drawnUntil (World.step pattern step world).2.supply,
      id ∉ world.store.ids) :
    Untouched role start (entries ++ [⟨step, (World.step pattern step world).1⟩])
      (World.step pattern step world).2 := by
  obtain ⟨hstored, hspares, more, hmore, htold⟩ := World.step_spares h.stored hsystem hnew
  refine ⟨hstored, ?_, ?_⟩
  · intro entry hentry
    rcases List.mem_append.mp hentry with hold | hlast
    · exact h.spared entry hold
    · rw [List.mem_singleton.mp hlast]
      exact hspares
  · obtain ⟨events, hevents, huntold⟩ := h.untold
    refine ⟨events ++ more, by rw [hmore, hevents, List.append_assoc], ?_⟩
    intro event hin
    rcases List.mem_append.mp hin with hold | hlast
    · exact huntold event hold
    · exact hspares.2 event (htold event hlast)

theorem Untouched.run {pattern : Pattern} {steps : List World.Step} {start : World} {role : Role}
    (hstored : role ∈ start.store.roles.rows) (hsystem : role.isSystem = true)
    (hfresh : Fresh (World.drawn pattern steps start) start.store.ids) :
    Untouched role start (World.history pattern steps start) (World.after pattern steps start) := by
  apply World.run_induction (P := Untouched role start) hfresh
  · exact ⟨hstored, fun _ hin => (nomatch hin), [], by simp, fun _ hin => nomatch hin⟩
  · intro entries step world _ hworld _ hnew
    exact hworld.step hsystem hnew.absent_left

/-- A system role is stored unchanged after every step of every run, what would update or delete it
fails, no event that is made or published tells that it was updated or deleted, and no step turns
another role into a system role. -/
theorem system_role_never_changes (pattern : Pattern) (steps : List World.Step) (start : World)
    (role : Role) (hstored : role ∈ start.store.roles.rows) (hsystem : role.isSystem = true)
    (hfresh : Fresh (World.drawn pattern steps start) start.store.ids) :
    (∀ n, role ∈ (World.after pattern (steps.take n) start).store.roles.rows) ∧
      (∀ entry ∈ World.history pattern steps start, entry.Spares role.id) ∧
      (∃ events, (World.after pattern steps start).published = start.published ++ events ∧
        ∀ event ∈ events, ¬ event.change.Alters role.id) ∧
      ∀ n, ∀ old ∈ (World.after pattern (steps.take n) start).store.roles.rows,
        old.isSystem = false →
        ∀ new ∈ (World.after pattern (steps.take (n + 1)) start).store.roles.rows,
          new.id = old.id → new.isSystem = false := by
  have hrun := Untouched.run hstored hsystem hfresh
  refine ⟨?_, hrun.spared, hrun.untold, ?_⟩
  · intro n
    exact (Untouched.run hstored hsystem (World.fresh_take hfresh n)).stored
  · intro n old hold hopen new hnew hid
    have hbefore : new.isSystem = true →
        new ∈ (World.after pattern (steps.take n) start).store.roles.rows := by
      intro hs
      rcases World.after_take_succ pattern steps start n with ⟨step, hstep⟩ | hover
      · rw [hstep] at hnew
        exact World.step_makes_no_system pattern step _ hnew hs
      · rwa [hover] at hnew
    cases hs : new.isSystem with
    | false => rfl
    | true =>
      rw [Table.key_inj (hbefore hs) hold hid, hopen] at hs
      cases hs

def adminRole : Role :=
  { id := Uuid.ofNat 1, name := "admin", scope := ⟨.organization, Uuid.ofNat 7⟩,
    createdAt := .epoch, isSystem := true,
    permissions := [⟨Uuid.ofNat 2, Uuid.ofNat 1, "roles.edit", .epoch⟩] }

/-- Steps against it: it is assigned, and then updated and deleted in vain in every way. -/
def assault : List World.Step :=
  [⟨.assignRole ⟨Uuid.ofNat 1, Uuid.ofNat 4, ⟨.organization, Uuid.ofNat 7⟩, Uuid.ofNat 5⟩,
      .epoch, false⟩,
    ⟨.updateRole ⟨Uuid.ofNat 1, "owner", none, ["roles.view"]⟩, .epoch, false⟩,
    ⟨.updateRole ⟨Uuid.ofNat 1, "owner", none, [""]⟩, .epoch, true⟩,
    ⟨.deleteRole (Uuid.ofNat 1), .epoch, false⟩,
    ⟨.revokeRole ⟨Uuid.ofNat 1, Uuid.ofNat 4, Uuid.ofNat 7⟩, .epoch, true⟩,
    ⟨.deleteRole (Uuid.ofNat 1), .epoch, true⟩,
    ⟨.createRole ⟨"admin", ⟨.workspace, Uuid.ofNat 7⟩, none, ["roles.edit"]⟩, .epoch, false⟩]

theorem admin_survives_assault :
    let pattern := Pattern.star false (.one .dot)
    let start : World := { store := ⟨⟨[adminRole], by decide⟩, .empty⟩, supply := .after 100 }
    adminRole ∈ start.store.roles.rows ∧ adminRole.isSystem = true ∧
      Fresh (World.drawn pattern assault start) start.store.ids ∧
      (∀ n, adminRole ∈ (World.after pattern (assault.take n) start).store.roles.rows) ∧
      ∀ entry ∈ World.history pattern assault start, entry.Spares adminRole.id := by
  intro pattern start
  have hstored : adminRole ∈ start.store.roles.rows := List.mem_singleton.mpr rfl
  have hsystem : adminRole.isSystem = true := rfl
  have hfresh : Fresh (World.drawn pattern assault start) start.store.ids := by decide +kernel
  obtain ⟨hkept, hspared, _⟩ :=
    system_role_never_changes pattern assault start adminRole hstored hsystem hfresh
  exact ⟨hstored, hsystem, hfresh, hkept, hspared⟩

end Rbac
