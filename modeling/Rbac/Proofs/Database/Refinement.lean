import Rbac.Proofs.Database.Agreement
import Rbac.Proofs.Database.Site

namespace Rbac.Sql

variable {engine : Engine} {pattern : Pattern} {site : Site} {world : World} {request : Request}
  {clock : Clock} {clocks : List Clock}

/-- A site that has the records of a world, and has drawn and published the same. -/
structure InStep (site : Site) (world : World) : Prop where
  mirrors : Mirrors site.tables world.store
  supply : site.supply = world.supply
  published : site.published = world.published

theorem Mirrors.empty : Mirrors .empty .empty :=
  ⟨.refl _, .refl _, .refl _⟩

theorem Orderly.run {supply : Supply} {steps : List World.Step}
    (h : World.Paced pattern supply steps) :
    Orderly (steps.map (·.clock)) (World.after pattern steps (.blank supply)).store := by
  have hfresh : Fresh (World.drawn pattern steps (.blank supply)) (World.blank supply).store.ids :=
    World.fresh_blank h.ids.nodup
  exact ⟨Integrity.empty.run hfresh, RoleIntegrity.empty.run hfresh, Chronological.run h⟩

theorem drawn_valid (h : Validation.breaches pattern request = []) (clock : Clock)
    (world : World) :
    World.drawn pattern [⟨request, clock, false⟩] world = world.supply.drawnUntil
      ((request.useCase clock).run world.store world.supply).2.2 := by
  have hsupply : (World.execute (request.useCase clock) world).2.supply =
      ((request.useCase clock).run world.store world.supply).2.2 := by
    rw [World.execute]
    rcases (request.useCase clock).run world.store world.supply with
      ⟨failure | answer, store, supply⟩
    · rfl
    · rfl
  change world.supply.drawnUntil (World.step pattern ⟨request, clock, false⟩ world).2.supply = _
  rw [World.step_valid h, World.tell_supply, hsupply]

namespace InStep

theorem blank (supply : Supply) : InStep (.blank supply) (.blank supply) :=
  ⟨.empty, rfl, rfl⟩

/-- A dispatched step, after all earlier ones, keeps a site in step with a world. If it
fails, the tables are rolled back, and in memory there is nothing to undo. -/
theorem step (h : InStep site world) (hkept : Orderly clocks world.store)
    (hpast : ∀ earlier ∈ clocks, earlier.Before clock)
    (hfresh : Fresh (World.drawn pattern [⟨request, clock, false⟩] world) world.store.ids) :
    (Site.step engine pattern ⟨request, clock, false⟩ site).1 =
        (World.step pattern ⟨request, clock, false⟩ world).1 ∧
      InStep (Site.step engine pattern ⟨request, clock, false⟩ site).2
        (World.step pattern ⟨request, clock, false⟩ world).2 := by
  by_cases hvalid : Validation.breaches pattern request = []
  · rw [drawn_valid hvalid] at hfresh
    obtain ⟨result, after, later, hrun, heffect⟩ :=
      UseCase.has_effect clock world.store world.supply request
    have hagrees : Agrees engine (request.useCase clock) world.store site.tables world.supply :=
      useCase_agrees h.mirrors hkept hvalid hpast hfresh
    obtain ⟨hresult, hdrawn, hmirrors⟩ := hagrees
    rw [hrun] at hresult hdrawn hmirrors
    simp only [Site.step_valid hvalid, World.step_valid hvalid, World.execute, h.supply, hrun]
    generalize (ofTransaction (request.useCase clock)).perform engine site.tables world.supply =
      performed at hresult hdrawn hmirrors ⊢
    obtain ⟨ended, tables, supply⟩ := performed
    obtain rfl : ended = result.map Except.ok := hresult
    obtain rfl : supply = later := hdrawn
    cases result with
    | error failure =>
      obtain ⟨_, rfl⟩ := heffect.of_error hvalid
      exact ⟨rfl, h.mirrors, rfl, h.published.trans (List.append_nil _).symm⟩
    | ok outcome =>
      exact ⟨rfl, hmirrors _ rfl, rfl, congrArg (· ++ World.told (.ok outcome)) h.published⟩
  · rw [Site.step_invalid hvalid, World.step_invalid hvalid]
    exact ⟨rfl, h⟩

/-- Through a run that is paced a site gives the results of the world and stays in step with it. -/
theorem run {supply : Supply} {steps : List World.Step} (h : World.Paced pattern supply steps) :
    Site.history engine pattern steps (.blank supply) =
        World.history pattern steps (.blank supply) ∧
      InStep (Site.after engine pattern steps (.blank supply))
        (World.after pattern steps (.blank supply)) := by
  induction steps using List.reverseRecOn with
  | nil => exact ⟨rfl, .blank supply⟩
  | append_singleton steps step ih =>
    obtain ⟨_, hfresh⟩ := h.draws
    have hpast := h.past
    obtain ⟨request, clock, direct⟩ := step
    obtain rfl : direct = false := h.dispatched ⟨request, clock, direct⟩ (by simp)
    obtain ⟨hhistory, hworld⟩ := ih h.first
    obtain ⟨hresult, hafter⟩ := hworld.step (Orderly.run h.first) hpast hfresh
    rw [Site.history_append, World.history_append, Site.after_append, World.after_append, hhistory]
    exact ⟨congrArg (fun result => _ ++ [World.Entry.mk _ result]) hresult, hafter⟩

end InStep

/-- Over a database whose statements have their plain relational meaning, every run that starts
without records gives the results that it gives in memory, if its requests are dispatched, the clock
goes on from step to step and the identifiers drawn ascend. After each step the same events are
published, and the tables hold what the records in memory are. -/
theorem database_agrees_with_memory (engine : Engine) (pattern : Pattern) (supply : Supply)
    (steps : List World.Step) (h : World.Paced pattern supply steps) :
    Site.history engine pattern steps (.blank supply) =
        World.history pattern steps (.blank supply) ∧
      ∀ n,
        (Site.after engine pattern (steps.take n) (.blank supply)).published =
            (World.after pattern (steps.take n) (.blank supply)).published ∧
          Mirrors (Site.after engine pattern (steps.take n) (.blank supply)).tables
            (World.after pattern (steps.take n) (.blank supply)).store := by
  obtain ⟨hhistory, _⟩ : _ ∧ InStep (Site.after engine pattern steps (.blank supply)) _ :=
    InStep.run h
  refine ⟨hhistory, ?_⟩
  intro n
  obtain ⟨_, hinstep⟩ : _ ∧ InStep (Site.after engine pattern (steps.take n) (.blank supply)) _ :=
    InStep.run (h.take n)
  exact ⟨hinstep.published, hinstep.mirrors⟩

/-- An engine that comes upon the rows inserted last first. -/
def lastFirst : Engine where
  arrange _ _ rows := rows.reverse
  arrange_perm _ _ rows := rows.reverse_perm
  collate a b := !b.before a

/-- The trial with a second from step to step, and with questions at its end. -/
def pacedTrial : List World.Step :=
  let org : Scope := ⟨.organization, Uuid.ofNat 7⟩
  let questions : List Request := [.getRole (Uuid.ofNat 101), .listRoles org,
    .checkPermission ⟨Uuid.ofNat 4, Uuid.ofNat 7, "doc:write"⟩,
    .userPermissions ⟨Uuid.ofNat 4, Uuid.ofNat 7⟩]
  (World.trial.map (·.request) ++ questions).mapIdx fun n request =>
    ⟨request, .still (Instant.epoch.later n), false⟩

theorem database_agrees_on_trial :
    World.Paced (.star false (.one .dot)) (.after 100) pacedTrial ∧
      Site.history lastFirst (.star false (.one .dot)) pacedTrial (.blank (.after 100)) =
        World.history (.star false (.one .dot)) pacedTrial (.blank (.after 100)) ∧
      Mirrors (Site.after lastFirst (.star false (.one .dot)) (pacedTrial.take 8)
          (.blank (.after 100))).tables
        (World.after (.star false (.one .dot)) (pacedTrial.take 8)
          (.blank (.after 100))).store := by
  have hpaced : World.Paced (.star false (.one .dot)) (.after 100) pacedTrial := by
    have hmoments : ∀ n < pacedTrial.length, ∀ m < n,
        (Instant.epoch.later m).micros < (Instant.epoch.later n).micros := by
      decide +kernel
    have hclock : ∀ n (hn : n < pacedTrial.length),
        (pacedTrial[n]).clock = .still (Instant.epoch.later n) := by
      intro n hn
      simp only [pacedTrial, List.getElem_mapIdx]
    refine ⟨?_, ?_, ?_, ?_⟩
    · decide +kernel
    · intro step hin
      obtain ⟨n, hn, rfl⟩ := List.mem_iff_getElem.mp hin
      rw [hclock n hn]
      exact Clock.steady_still _
    · rw [List.pairwise_iff_getElem]
      intro m n hm hn hlt
      rw [hclock m hm, hclock n hn, Clock.before_still]
      exact hmoments n hn m hlt
    · decide +kernel
  obtain ⟨hhistory, heach⟩ := database_agrees_with_memory lastFirst _ _ _ hpaced
  exact ⟨hpaced, hhistory, (heach 8).2⟩

end Rbac.Sql
