import Mathlib.Data.List.Induction
import Rbac.Proofs.Dispatching
import Rbac.Proofs.Effects

namespace Rbac

namespace World

def settled (world : World) (result : Except Failure (Outcome Answer)) (store : Store)
    (supply : Supply) : World :=
  match result with
  | .ok _ => { world with store, supply, commits := world.commits + 1 }
  | .error _ => { world with store, supply, rollbacks := world.rollbacks + 1 }

@[simp] theorem settled_store (world : World) (result : Except Failure (Outcome Answer))
    (store : Store) (supply : Supply) : (world.settled result store supply).store = store := by
  cases result with
  | ok outcome => rfl
  | error failure => rfl

@[simp] theorem settled_supply (world : World) (result : Except Failure (Outcome Answer))
    (store : Store) (supply : Supply) : (world.settled result store supply).supply = supply := by
  cases result with
  | ok outcome => rfl
  | error failure => rfl

@[simp] theorem settled_published (world : World) (result : Except Failure (Outcome Answer))
    (store : Store) (supply : Supply) :
    (world.settled result store supply).published = world.published := by
  cases result with
  | ok outcome => rfl
  | error failure => rfl

def tell (world : World) (events : List Event) : World :=
  { world with published := world.published ++ events }

@[simp] theorem tell_store (world : World) (events : List Event) :
    (world.tell events).store = world.store := rfl

@[simp] theorem tell_supply (world : World) (events : List Event) :
    (world.tell events).supply = world.supply := rfl

@[simp] theorem tell_published (world : World) (events : List Event) :
    (world.tell events).published = world.published ++ events := rfl

@[simp] theorem tell_nil (world : World) : world.tell [] = world := by
  simp [tell]

def told : Except Failure (Outcome Answer) → List Event
  | .ok outcome => outcome.events.getD []
  | .error _ => []

/-- A unit of work leaves the effect of its request, committed or rolled back. -/
theorem execute_effect (request : Request) (clock : Clock) (world : World) :
    ∃ result after later,
      execute (request.useCase clock) world = (result, world.settled result after later) ∧
        Effect clock world.store world.supply request result after later := by
  obtain ⟨result, after, later, hrun, heffect⟩ :=
    UseCase.has_effect clock world.store world.supply request
  refine ⟨result, after, later, ?_, heffect⟩
  cases result with
  | ok outcome => simp [execute, hrun, Except.map, settled]
  | error failure => simp [execute, hrun, Except.map, settled]

theorem step_invalid {pattern : Pattern} {request : Request}
    (h : Validation.breaches pattern request ≠ []) (clock : Clock) (world : World) :
    step pattern ⟨request, clock, false⟩ world =
      (.error (.invalid (Validation.group (Validation.breaches pattern request))), world) :=
  Service.dispatch_invalid h execute (some publish) clock world

theorem step_valid {pattern : Pattern} {request : Request}
    (h : Validation.breaches pattern request = []) (clock : Clock) (world : World) :
    step pattern ⟨request, clock, false⟩ world =
      ((execute (request.useCase clock) world).1,
        (execute (request.useCase clock) world).2.tell
          (told (execute (request.useCase clock) world).1)) := by
  have hpublish : ∀ events world, publish events world = (.ok (), world.tell events) :=
    fun _ _ => rfl
  have hdispatch : step pattern ⟨request, clock, false⟩ world = _ :=
    Service.dispatch_told h (fun events world => world.tell events) hpublish tell_nil execute clock
      world
  rw [hdispatch]
  rcases execute (request.useCase clock) world with ⟨failure | outcome, after⟩
  · simp [told]
  · rfl

theorem step_done {pattern : Pattern} {request : Request} {clock : Clock} {world : World}
    {outcome : Outcome Answer} {store : Store} {supply : Supply}
    (h : Validation.breaches pattern request = [])
    (hrun : (request.useCase clock).run world.store world.supply =
      (.ok (.ok outcome), store, supply)) :
    (step pattern ⟨request, clock, false⟩ world).1 = .ok outcome ∧
      (step pattern ⟨request, clock, false⟩ world).2.store = store := by
  have hexecute : execute (request.useCase clock) world =
      (.ok outcome, { world with store, supply, commits := world.commits + 1 }) := by
    simp only [execute, hrun]
  rw [step_valid h, hexecute]
  exact ⟨rfl, rfl⟩

/-- A step is turned away by the validators, or it has the effect of its request. A direct step
meets no validators, and its events are not told. -/
theorem step_cases (pattern : Pattern) (request : Request) (clock : Clock) (direct : Bool)
    (world : World) :
    (direct = false ∧ ∃ errors,
        step pattern ⟨request, clock, direct⟩ world = (.error (.invalid errors), world)) ∨
      ∃ result after later,
        (direct = false → Validation.breaches pattern request = []) ∧
        step pattern ⟨request, clock, direct⟩ world =
          (result, (world.settled result after later).tell
            (if direct then [] else told result)) ∧
        Effect clock world.store world.supply request result after later := by
  obtain ⟨result, after, later, hexecute, heffect⟩ := execute_effect request clock world
  cases direct with
  | true =>
    refine Or.inr ⟨result, after, later, by simp, ?_, heffect⟩
    have hdirect :
        step pattern ⟨request, clock, true⟩ world = execute (request.useCase clock) world :=
      rfl
    rw [hdirect, hexecute, if_pos rfl, tell_nil]
  | false =>
    by_cases hb : Validation.breaches pattern request = []
    · refine Or.inr ⟨result, after, later, fun _ => hb, ?_, heffect⟩
      rw [step_valid hb, hexecute]
      rfl
    · exact Or.inl ⟨rfl, _, step_invalid hb clock world⟩

/-- A step is turned away by the validators and leaves the world as it is, or it has the effect of
its request on records and supply. -/
theorem step_effect (pattern : Pattern) (step : Step) (world : World) :
    (∃ errors, World.step pattern step world = (.error (.invalid errors), world)) ∨
      ((step.direct = false → Validation.breaches pattern step.request = []) ∧
        Effect step.clock world.store world.supply step.request (World.step pattern step world).1
          (World.step pattern step world).2.store (World.step pattern step world).2.supply) := by
  obtain ⟨request, clock, direct⟩ := step
  rcases step_cases pattern request clock direct world with
    ⟨_, errors, hstep⟩ | ⟨result, after, later, hvalid, hstep, heffect⟩
  · exact Or.inl ⟨errors, hstep⟩
  · refine Or.inr ⟨hvalid, ?_⟩
    simpa only [hstep, tell_store, tell_supply, settled_store, settled_supply] using heffect

theorem step_succeeded {pattern : Pattern} {request : Request} {clock : Clock} {world : World}
    {outcome : Outcome Answer} (h : (step pattern ⟨request, clock, false⟩ world).1 = .ok outcome) :
    Validation.breaches pattern request = [] ∧
      ∃ after later, (step pattern ⟨request, clock, false⟩ world).2.store = after ∧
        (step pattern ⟨request, clock, false⟩ world).2.supply = later ∧
        Effect clock world.store world.supply request (.ok outcome) after later := by
  rcases step_effect pattern ⟨request, clock, false⟩ world with ⟨_, hstep⟩ | ⟨hvalid, heffect⟩
  · rw [hstep] at h
    cases h
  · rw [h] at heffect
    exact ⟨hvalid rfl, _, _, rfl, rfl, heffect⟩

theorem step_reaches (pattern : Pattern) (step : Step) (world : World) :
    world.supply.Reaches (World.step pattern step world).2.supply := by
  rcases step_effect pattern step world with ⟨_, hstep⟩ | ⟨_, heffect⟩
  · rw [hstep]
    exact .refl _
  · exact heffect.reaches

theorem step_ids (pattern : Pattern) (step : Step) (world : World) :
    ∀ id ∈ (World.step pattern step world).2.store.ids,
      id ∈ world.store.ids ∨
        id ∈ world.supply.drawnUntil (World.step pattern step world).2.supply := by
  rcases step_effect pattern step world with ⟨_, hstep⟩ | ⟨_, heffect⟩
  · rw [hstep]
    exact fun id hid => Or.inl hid
  · exact heffect.ids

/-- A step with its result. -/
structure Entry where
  step : Step
  result : Except Failure (Outcome Answer)

def after (pattern : Pattern) (steps : List Step) (world : World) : World :=
  steps.foldl (fun world step => (World.step pattern step world).2) world

/-- The history of a run: each step with its result, in order. -/
def history (pattern : Pattern) : List Step → World → List Entry
  | [], _ => []
  | step :: rest, world =>
    ⟨step, (World.step pattern step world).1⟩ ::
      history pattern rest (World.step pattern step world).2

def blank (supply : Supply) : World :=
  { store := .empty, supply }

def drawn (pattern : Pattern) (steps : List Step) (world : World) : List Uuid :=
  world.supply.drawnUntil (after pattern steps world).supply

theorem after_append (pattern : Pattern) (steps more : List Step) (world : World) :
    after pattern (steps ++ more) world = after pattern more (after pattern steps world) := by
  simp [after]

theorem history_append (pattern : Pattern) (steps more : List Step) (world : World) :
    history pattern (steps ++ more) world =
      history pattern steps world ++ history pattern more (after pattern steps world) := by
  induction steps generalizing world with
  | nil => rfl
  | cons first rest ih => simp [history, ih, after]

theorem after_reaches (pattern : Pattern) (steps : List Step) (world : World) :
    world.supply.Reaches (after pattern steps world).supply := by
  induction steps generalizing world with
  | nil => exact .refl _
  | cons step rest ih => exact (step_reaches pattern step world).trans (ih _)

theorem drawn_append (pattern : Pattern) (steps more : List Step) (world : World) :
    drawn pattern (steps ++ more) world =
      drawn pattern steps world ++ drawn pattern more (after pattern steps world) := by
  simp only [drawn, after_append]
  exact Supply.drawnUntil_append (after_reaches pattern steps world) (after_reaches pattern more _)

/-- What every world of a run keeps of its start: the supply is the same one, and an identifier in
the records was in them then or has been drawn since. -/
structure Reached (start world : World) : Prop where
  supply : start.supply.Reaches world.supply
  ids : ∀ id ∈ world.store.ids,
    id ∈ start.store.ids ∨ id ∈ start.supply.drawnUntil world.supply

theorem Reached.step {start world : World} (h : Reached start world) (pattern : Pattern)
    (step : Step) : Reached start (World.step pattern step world).2 := by
  have hreach := step_reaches pattern step world
  refine ⟨h.supply.trans hreach, ?_⟩
  intro id hid
  rcases step_ids pattern step world id hid with hold | hnew
  · rcases h.ids id hold with hstart | hdrawn
    · exact Or.inl hstart
    · exact Or.inr (Supply.drawnUntil_first h.supply hreach id hdrawn)
  · exact Or.inr (Supply.drawnUntil_second h.supply hreach id hnew)

/-- What holds at the start and is kept by every step of a run holds at its end. -/
theorem run_preserves {pattern : Pattern} {start : World} {steps : List Step}
    {P : List Entry → World → Prop} (hstart : P [] start)
    (hstep : ∀ entries step world, step ∈ steps → P entries world →
      P (entries ++ [⟨step, (World.step pattern step world).1⟩])
        (World.step pattern step world).2) :
    P (history pattern steps start) (after pattern steps start) := by
  -- From the end of the run, so that a step is taken in the world that the steps before it left.
  induction steps using List.reverseRecOn with
  | nil => exact hstart
  | append_singleton steps step ih =>
    rw [history_append, after_append]
    have hbefore := ih fun entries other world hin =>
      hstep entries other world (List.mem_append_left _ hin)
    exact hstep _ step _ (by simp) hbefore

theorem after_reached (pattern : Pattern) (steps : List Step) (start : World) :
    Reached start (after pattern steps start) :=
  run_preserves (P := fun _ world => Reached start world) ⟨.refl _, fun _ hid => Or.inl hid⟩
    fun _ step _ _ hworld => hworld.step pattern step

/-- The induction on runs that draw new identifiers. What a step draws is new both to the records it
finds and to what the run has drawn before, so also to records that are gone again. -/
theorem run_induction {pattern : Pattern} {start : World} {steps : List Step}
    {P : List Entry → World → Prop}
    (hfresh : Fresh (drawn pattern steps start) start.store.ids) (hstart : P [] start)
    (hstep : ∀ entries step world, step ∈ steps → P entries world → Reached start world →
      Fresh (world.supply.drawnUntil (World.step pattern step world).2.supply)
        (world.store.ids ++ start.supply.drawnUntil world.supply) →
      P (entries ++ [⟨step, (World.step pattern step world).1⟩])
        (World.step pattern step world).2) :
    P (history pattern steps start) (after pattern steps start) := by
  induction steps using List.reverseRecOn with
  | nil => exact hstart
  | append_singleton steps step ih =>
    rw [drawn_append] at hfresh
    rw [history_append, after_append]
    have hreached := after_reached pattern steps start
    have hbefore := ih hfresh.first fun entries other world hin =>
      hstep entries other world (List.mem_append_left _ hin)
    exact hstep _ step _ (by simp) hbefore hreached (hfresh.rest hreached.ids)

/-- Where nothing is stored, identifiers are new once no two are the same. -/
theorem fresh_blank {supply : Supply} {ids : List Uuid} (h : ids.Nodup) :
    Fresh ids (blank supply).store.ids :=
  ⟨h, fun _ _ hin => by cases hin⟩

theorem fresh_take {pattern : Pattern} {start : World} {steps : List Step}
    (h : Fresh (drawn pattern steps start) start.store.ids) (n : Nat) :
    Fresh (drawn pattern (steps.take n) start) start.store.ids := by
  rw [← List.take_append_drop n steps, drawn_append] at h
  exact h.first

/-- A run to try results on. Two roles come; the first is assigned and updated, the second is
assigned, revoked and deleted. A name that is taken, a role that is held already, a blank action and
a role that is still held are refused on the way. -/
def trial : List Step :=
  let org : Scope := ⟨.organization, Uuid.ofNat 7⟩
  [⟨.createRole ⟨"editor", org, none, ["doc:read", "doc:write"]⟩, .epoch, false⟩,
    ⟨.createRole ⟨"editor", org, none, []⟩, .epoch, false⟩,
    ⟨.assignRole ⟨Uuid.ofNat 101, Uuid.ofNat 4, org, Uuid.ofNat 5⟩, .epoch, false⟩,
    ⟨.assignRole ⟨Uuid.ofNat 101, Uuid.ofNat 4, org, Uuid.ofNat 5⟩, .epoch, false⟩,
    ⟨.updateRole ⟨Uuid.ofNat 101, "author", none, ["doc:write", "doc:share", "doc:share"]⟩,
      .epoch, false⟩,
    ⟨.updateRole ⟨Uuid.ofNat 101, "author", none, [""]⟩, .epoch, false⟩,
    ⟨.createRole ⟨"reader", org, none, ["doc:read"]⟩, .epoch, false⟩,
    ⟨.assignRole ⟨Uuid.ofNat 106, Uuid.ofNat 4, org, Uuid.ofNat 5⟩, .epoch, false⟩,
    ⟨.deleteRole (Uuid.ofNat 101), .epoch, false⟩,
    ⟨.revokeRole ⟨Uuid.ofNat 106, Uuid.ofNat 4, Uuid.ofNat 7⟩, .epoch, false⟩,
    ⟨.deleteRole (Uuid.ofNat 106), .epoch, false⟩]

end World
end Rbac
