import Rbac.Proofs.Atomicity

namespace Rbac

namespace Clock

def Before (a b : Clock) : Prop :=
  ∀ m n, (a.reading m).micros < (b.reading n).micros

def Steady (clock : Clock) : Prop :=
  ∀ m n, m ≤ n → (clock.reading m).micros ≤ (clock.reading n).micros

theorem Steady.past {clock : Clock} (h : clock.Steady) (readings : Nat) :
    (clock.past readings).Steady :=
  fun m n hle => h (readings + m) (readings + n) (by omega)

theorem Before.past {a b : Clock} (h : a.Before b) (readings : Nat) : a.Before (b.past readings) :=
  fun m n => h m (readings + n)

theorem steady_still (moment : Instant) : (still moment).Steady :=
  fun _ _ _ => Int.le_refl _

theorem before_still {a b : Instant} : (still a).Before (still b) ↔ a.micros < b.micros :=
  ⟨fun h => h 0 0, fun h _ _ => h⟩

/-- A moment that one of some clocks showed. -/
def Showed (clocks : List Clock) (moment : Instant) : Prop :=
  ∃ clock ∈ clocks, ∃ n, clock.reading n = moment

theorem Showed.weaken {clocks : List Clock} {moment : Instant} (h : Showed clocks moment)
    (more : List Clock) : Showed (clocks ++ more) moment := by
  obtain ⟨clock, hin, n, hn⟩ := h
  exact ⟨clock, List.mem_append_left _ hin, n, hn⟩

theorem showed_last (clocks : List Clock) (clock : Clock) (n : Nat) :
    Showed (clocks ++ [clock]) (clock.reading n) :=
  ⟨clock, by simp, n, rfl⟩

theorem Showed.lt {clocks : List Clock} {clock : Clock} {moment : Instant}
    (h : Showed clocks moment) (hpast : ∀ earlier ∈ clocks, earlier.Before clock) (n : Nat) :
    moment.micros < (clock.reading n).micros := by
  obtain ⟨earlier, hin, m, rfl⟩ := h
  exact hpast earlier hin m n

end Clock

/-- The order of permissions by the time of creation and then by id. -/
def Permission.Precedes (a b : Permission) : Prop :=
  a.createdAt.micros < b.createdAt.micros ∨
    (a.createdAt.micros = b.createdAt.micros ∧ a.id.value < b.id.value)

def Ascending (ids : List Uuid) : Prop :=
  ids.Pairwise fun a b => a.value < b.value

instance (ids : List Uuid) : Decidable (Ascending ids) :=
  inferInstanceAs (Decidable (ids.Pairwise _))

theorem Ascending.nodup {ids : List Uuid} (h : Ascending ids) : ids.Nodup := by
  apply List.Pairwise.imp _ h
  intro a b hlt he
  subst he
  exact Nat.lt_irrefl _ hlt

/-- The permissions of each role and the assignments stand in the order of their time, and they were
made when given clocks were read. -/
structure Chronological (clocks : List Clock) (store : Store) : Prop where
  permissions : ∀ role ∈ store.roles.rows, role.permissions.Pairwise Permission.Precedes
  assignments : store.assignments.rows.Pairwise fun a b =>
    a.assignedAt.micros < b.assignedAt.micros
  created : ∀ role ∈ store.roles.rows, ∀ permission ∈ role.permissions,
    Clock.Showed clocks permission.createdAt
  assigned : ∀ assignment ∈ store.assignments.rows, Clock.Showed clocks assignment.assignedAt

namespace Permission

variable {role : Uuid} {clock : Clock} {supply : Supply} {actions : List Text}

theorem series_ids : (series role clock supply actions).map (·.id) =
    supply.drawnUntil (supply.skip actions.length) := by
  induction actions generalizing clock supply with
  | nil => simp [series, Supply.drawnUntil, Supply.skip]
  | cons action rest ih =>
    rw [List.length_cons, ← Supply.skip_advance,
      Supply.drawnUntil_cons (supply.advance.reaches_skip _), ← ih]
    rfl

theorem createdAt_of_mem_series {permission : Permission}
    (h : permission ∈ series role clock supply actions) :
    ∃ n, permission.createdAt = clock.reading n := by
  induction actions generalizing clock supply with
  | nil => cases h
  | cons action rest ih =>
    rcases List.mem_cons.mp h with rfl | hrest
    · exact ⟨0, rfl⟩
    · obtain ⟨n, hn⟩ := ih hrest
      exact ⟨1 + n, hn⟩

theorem series_moments (h : clock.Steady) :
    (series role clock supply actions).Pairwise fun a b =>
      a.createdAt.micros ≤ b.createdAt.micros := by
  induction actions generalizing clock supply with
  | nil => exact List.Pairwise.nil
  | cons action rest ih =>
    refine List.pairwise_cons.mpr ⟨?_, ih (h.past 1)⟩
    intro permission hp
    obtain ⟨n, hn⟩ := createdAt_of_mem_series hp
    rw [hn]
    exact h 0 (1 + n) (Nat.zero_le _)

/-- Permissions that come together are told apart by their ids where the clock does not. -/
theorem series_precedes (hclock : clock.Steady)
    (h : Ascending (supply.drawnUntil (supply.skip actions.length))) :
    (series role clock supply actions).Pairwise Precedes := by
  have hids : ((series role clock supply actions).map (·.id)).Pairwise
      fun a b => a.value < b.value := by
    rw [series_ids]
    exact h
  rw [List.pairwise_map] at hids
  apply (hids.and (series_moments hclock)).imp
  rintro a b ⟨hid, hmoment⟩
  rcases Int.lt_or_eq_of_le hmoment with hlt | heq
  · exact Or.inl hlt
  · exact Or.inr ⟨heq, hid⟩

theorem append_series_precedes {old : List Permission} (hold : old.Pairwise Precedes)
    (hclock : clock.Steady)
    (hpast : ∀ permission ∈ old, ∀ n, permission.createdAt.micros < (clock.reading n).micros)
    (h : Ascending (supply.drawnUntil (supply.skip actions.length))) :
    (old ++ series role clock supply actions).Pairwise Precedes := by
  refine List.pairwise_append.mpr ⟨hold, series_precedes hclock h, ?_⟩
  intro a ha b hb
  obtain ⟨n, hn⟩ := createdAt_of_mem_series hb
  rw [Precedes, hn]
  exact Or.inl (hpast a ha n)

end Permission

namespace Chronological

variable {clocks : List Clock} {store after : Store} {clock : Clock} {supply later : Supply}
  {request : Request} {result : Except Failure (Outcome Answer)}

theorem empty : Chronological [] .empty := by
  refine ⟨?_, List.Pairwise.nil, ?_, ?_⟩
  all_goals
    intro _ hin
    cases hin

theorem weaken (h : Chronological clocks store) (more : List Clock) :
    Chronological (clocks ++ more) store := by
  refine ⟨h.permissions, h.assignments, ?_, ?_⟩
  · intro role hrole permission hp
    exact (h.created role hrole permission hp).weaken more
  · intro assignment ha
    exact (h.assigned assignment ha).weaken more

theorem put_role (h : Chronological clocks store) {role : Role}
    (hordered : role.permissions.Pairwise Permission.Precedes)
    (hcreated : ∀ permission ∈ role.permissions, Clock.Showed clocks permission.createdAt) :
    Chronological clocks (store.putRole role) := by
  refine ⟨?_, h.assignments, ?_, h.assigned⟩
  · intro other ho
    rcases Table.mem_put.mp ho with rfl | ⟨hold, _⟩
    · exact hordered
    · exact h.permissions other hold
  · intro other ho
    rcases Table.mem_put.mp ho with rfl | ⟨hold, _⟩
    · exact hcreated
    · exact h.created other hold

theorem erase_role (h : Chronological clocks store) (id : Uuid) :
    Chronological clocks (store.eraseRole id) := by
  refine ⟨?_, h.assignments, ?_, h.assigned⟩
  · intro role hrole
    exact h.permissions role (Table.mem_erase.mp hrole).1
  · intro role hrole
    exact h.created role (Table.mem_erase.mp hrole).1

theorem put_assignment (h : Chronological clocks store) {assignment : Assignment}
    (hnew : ∀ other ∈ store.assignments.rows, other.id ≠ assignment.id) {n : Nat}
    (hmoment : assignment.assignedAt = clock.reading n)
    (hpast : ∀ earlier ∈ clocks, earlier.Before clock) :
    Chronological (clocks ++ [clock]) (store.putAssignment assignment) := by
  have hrows : (store.putAssignment assignment).assignments.rows =
      store.assignments.rows ++ [assignment] := Table.rows_put_of_fresh hnew
  refine ⟨h.permissions, ?_, (h.weaken _).created, ?_⟩
  · rw [hrows]
    refine List.pairwise_append.mpr ⟨h.assignments, List.pairwise_singleton _ _, ?_⟩
    intro other ho last hin
    rw [List.mem_singleton.mp hin, hmoment]
    exact (h.assigned other ho).lt hpast n
  · rw [hrows]
    intro other ho
    rcases List.mem_append.mp ho with hold | hin
    · exact (h.assigned other hold).weaken _
    · rw [List.mem_singleton.mp hin, hmoment]
      exact Clock.showed_last clocks clock n

theorem erase_assignment (h : Chronological clocks store) (id : Uuid) :
    Chronological clocks (store.eraseAssignment id) := by
  have hsub : (store.eraseAssignment id).assignments.rows.Sublist store.assignments.rows :=
    List.filter_sublist
  exact ⟨h.permissions, h.assignments.sublist hsub, h.created,
    fun assignment ha => h.assigned assignment (hsub.subset ha)⟩

theorem put_extended (h : Chronological clocks store) {role : Role} {actions : List Text}
    (hordered : role.permissions.Pairwise Permission.Precedes)
    (hcreated : ∀ permission ∈ role.permissions, Clock.Showed clocks permission.createdAt)
    (hclock : clock.Steady) (hpast : ∀ earlier ∈ clocks, earlier.Before clock) (readings : Nat)
    (hids : Ascending (supply.drawnUntil (supply.skip actions.length))) :
    Chronological (clocks ++ [clock]) (store.putRole
      (role.extend (Permission.series role.id (clock.past readings) supply actions))) := by
  apply (h.weaken [clock]).put_role
  · apply Permission.append_series_precedes hordered (hclock.past readings) _ hids
    intro permission hp n
    exact (hcreated permission hp).lt hpast (readings + n)
  · intro permission hp
    rcases List.mem_append.mp hp with hold | hnew
    · exact (hcreated permission hold).weaken _
    · obtain ⟨n, hn⟩ := Permission.createdAt_of_mem_series hnew
      rw [hn]
      exact Clock.showed_last clocks clock (readings + n)

/-- A request that keeps its rules, after all earlier ones, leaves the records in their order. -/
theorem effect {pattern : Pattern} (h : Chronological clocks store)
    (hvalid : Validation.breaches pattern request = []) (hclock : clock.Steady)
    (hpast : ∀ earlier ∈ clocks, earlier.Before clock)
    (heffect : Effect clock store supply request result after later)
    (hfresh : ∀ id ∈ supply.drawnUntil later, id ∉ store.ids)
    (hids : Ascending (supply.drawnUntil later)) : Chronological (clocks ++ [clock]) after := by
  cases heffect with
  | refused => exact h.weaken _
  | answered => exact h.weaken _
  | created _ hadd =>
    obtain ⟨rfl, rfl⟩ := Effect.created_role hadd
    have hreach := supply.advance.reaches_skip
    rw [Supply.drawnUntil_cons (hreach _)] at hids
    apply h.put_extended List.Pairwise.nil _ hclock hpast 2 (List.pairwise_cons.mp hids).2
    intro _ hin
    cases hin
  | @updated command old role _ _ hfound _ hs hsync =>
    obtain ⟨hold, _⟩ := Table.find_iff.mp hfound
    have hrenamed : (command.renamed old clock).isSystem = false := hs
    rw [Role.sync_succeeds (clock.past 2) supply hrenamed
      (Validation.updateRole_blank hvalid)] at hsync
    obtain ⟨⟨_, rfl⟩, rfl⟩ := by simpa only [Prod.mk.injEq] using hsync
    have hkept : ((command.renamed old clock).trimmed command.permissions).permissions.Sublist
        old.permissions := List.filter_sublist
    apply h.put_extended ((h.permissions old hold).sublist hkept) _ hclock hpast 2 hids
    intro permission hp
    exact h.created old hold permission (hkept.subset hp)
  | halfUpdated _ _ hs hstopped =>
    exact (Effect.not_half (Validation.updateRole_blank hvalid) hs hstopped).elim
  | deleted => exact (h.erase_role _).weaken _
  | @assigned command role =>
    have hnew : ∀ other ∈ store.assignments.rows,
        other.id ≠ (command.assignment supply.next clock).id := by
      intro other ho he
      have hdrawn : other.id ∈ supply.drawnUntil supply.advance := by
        rw [he]
        exact Supply.next_mem_drawnUntil (.refl _)
      exact hfresh other.id hdrawn (Store.assignment_id_mem ho)
    exact h.put_assignment hnew rfl hpast
  | revoked => exact (h.erase_assignment _).weaken _

theorem step {pattern : Pattern} {request : Request} {world : World}
    (h : Chronological clocks world.store) (hclock : clock.Steady)
    (hpast : ∀ earlier ∈ clocks, earlier.Before clock)
    (hids : Ascending (World.drawn pattern [⟨request, clock, false⟩] world))
    (hfresh : Fresh (World.drawn pattern [⟨request, clock, false⟩] world) world.store.ids) :
    Chronological (clocks ++ [clock])
      (World.step pattern ⟨request, clock, false⟩ world).2.store := by
  rcases World.step_effect pattern ⟨request, clock, false⟩ world with
    ⟨_, hstep⟩ | ⟨hvalid, heffect⟩
  · rw [hstep]
    exact h.weaken _
  · exact h.effect (hvalid rfl) hclock hpast heffect hfresh.absent hids

end Chronological

/-- A run of dispatched requests that starts without records. The clock goes on from step to step
and never goes back within one, and the identifiers drawn ascend. -/
structure World.Paced (pattern : Pattern) (supply : Supply) (steps : List Step) : Prop where
  dispatched : ∀ step ∈ steps, step.direct = false
  steady : ∀ step ∈ steps, step.clock.Steady
  clock : steps.Pairwise fun a b => a.clock.Before b.clock
  ids : Ascending (drawn pattern steps (.blank supply))

namespace World.Paced

variable {pattern : Pattern} {supply : Supply} {steps more : List Step} {step : Step}

theorem first (h : Paced pattern supply (steps ++ more)) : Paced pattern supply steps := by
  have hids := h.ids
  rw [drawn_append] at hids
  exact ⟨fun step hin => h.dispatched step (List.mem_append_left _ hin),
    fun step hin => h.steady step (List.mem_append_left _ hin),
    (List.pairwise_append.mp h.clock).1, (List.pairwise_append.mp hids).1⟩

theorem take (h : Paced pattern supply steps) (n : Nat) : Paced pattern supply (steps.take n) := by
  rw [← List.take_append_drop n steps] at h
  exact h.first

theorem past (h : Paced pattern supply (steps ++ [step])) :
    ∀ earlier ∈ steps.map (·.clock), earlier.Before step.clock := by
  intro earlier hin
  obtain ⟨other, ho, rfl⟩ := List.mem_map.mp hin
  exact (List.pairwise_append.mp h.clock).2.2 other ho step (List.mem_singleton_self step)

theorem draws (h : Paced pattern supply (steps ++ [step])) :
    Ascending (drawn pattern [step] (after pattern steps (.blank supply))) ∧
      Fresh (drawn pattern [step] (after pattern steps (.blank supply)))
        (after pattern steps (.blank supply)).store.ids := by
  have hids := h.ids
  rw [drawn_append] at hids
  have hreached := after_reached pattern steps (.blank supply)
  have hfresh := (fresh_blank hids.nodup).rest hreached.ids
  exact ⟨(List.pairwise_append.mp hids).2.1, ⟨hfresh.distinct, hfresh.absent_left⟩⟩

end World.Paced

theorem Chronological.run {pattern : Pattern} {supply : Supply} {steps : List World.Step}
    (h : World.Paced pattern supply steps) :
    Chronological (steps.map (·.clock)) (World.after pattern steps (.blank supply)).store := by
  induction steps using List.reverseRecOn with
  | nil => exact .empty
  | append_singleton steps step ih =>
    obtain ⟨hascending, hfresh⟩ := h.draws
    have hpast := h.past
    have hclock := h.steady step (by simp)
    obtain ⟨request, clock, direct⟩ := step
    obtain rfl : direct = false := h.dispatched ⟨request, clock, direct⟩ (by simp)
    rw [World.after_append, List.map_append]
    exact (ih h.first).step hclock hpast hascending hfresh

end Rbac
