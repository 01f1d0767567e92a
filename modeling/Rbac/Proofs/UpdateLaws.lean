import Rbac.Proofs.LastWrite

namespace Rbac

namespace UpdateRole

/-- The role that a command makes of another one, with identifiers from a supply. -/
def applied (command : UpdateRole) (role : Role) (clock : Clock) (supply : Supply) : Role :=
  ((command.renamed role clock).trimmed command.permissions).extend
    (Permission.series role.id (clock.past 2) supply
      ((command.renamed role clock).missing command.permissions))

/-- Nothing speaks against an update of a role that may change. -/
structure Accepted (pattern : Pattern) (store : Store) (command : UpdateRole) (role : Role) :
    Prop where
  kept : (Request.updateRole command).KeepsRules pattern
  free : store.nameTaken command.name role.scope (some role.id) = false

variable {pattern : Pattern} {command : UpdateRole} {role : Role}

theorem synced_applied (hopen : role.isSystem = false)
    (hkept : (Request.updateRole command).KeepsRules pattern) (clock : Clock) (supply : Supply) :
    ∃ changes later,
      ((command.renamed role clock).sync command.permissions (clock.past 2)).run supply =
        ((.ok changes, command.applied role clock supply), later) :=
  have hrenamed : (command.renamed role clock).isSystem = false := hopen
  ⟨_, _, Role.sync_succeeds (clock.past 2) supply hrenamed
    fun action ha => (hkept.2.2.2 action ha).visible⟩

theorem mem_actions_applied (hopen : role.isSystem = false)
    (hkept : (Request.updateRole command).KeepsRules pattern) (clock : Clock) (supply : Supply)
    {action : Text} :
    action ∈ (command.applied role clock supply).actions ↔ action ∈ command.permissions := by
  obtain ⟨_, _, hsync⟩ := synced_applied hopen hkept clock supply
  exact Effect.synced_actions hopen hsync

theorem applied_distinct (h : role.actions.Nodup) (clock : Clock) (supply : Supply) :
    (command.applied role clock supply).actions.Nodup :=
  have hrenamed : (command.renamed role clock).actions.Nodup := h
  Role.extended_distinct hrenamed (.refl _) role.id (clock.past 2) supply

theorem applied_settled (hopen : role.isSystem = false)
    (hkept : (Request.updateRole command).KeepsRules pattern) (hname : command.name = role.name)
    (hdescription : command.description = role.description)
    (hactions : ∀ action, action ∈ role.actions ↔ action ∈ command.permissions) (clock : Clock)
    (supply : Supply) :
    command.applied role clock supply = { role with updatedAt := some (clock.reading 0) } := by
  obtain ⟨_, _, hsync⟩ := synced_applied hopen hkept clock supply
  have hsame : ∀ action, action ∈ (command.renamed role clock).actions ↔
      action ∈ command.permissions := hactions
  rw [Role.sync_settled hsame] at hsync
  simp only [Prod.mk.injEq] at hsync
  rw [← hsync.1.2, renamed, hname, hdescription]

end UpdateRole

theorem Store.nameTaken_putRole (store : Store) (role : Role) (name : Text) (scope : Scope) :
    (store.putRole role).nameTaken name scope (some role.id) =
      store.nameTaken name scope (some role.id) := by
  rw [Bool.eq_iff_iff, nameTaken_iff, nameTaken_iff]
  constructor
  · rintro ⟨other, ho, hname, hscope, hne⟩
    rcases Table.mem_put.mp ho with rfl | ⟨hold, _⟩
    · exact absurd rfl hne
    · exact ⟨other, hold, hname, hscope, hne⟩
  · rintro ⟨other, hold, hname, hscope, hne⟩
    have hid : other.id ≠ role.id := fun he => hne (congrArg some he)
    exact ⟨other, Table.mem_put.mpr (Or.inr ⟨hold, hid⟩), hname, hscope, hne⟩

def Succeeded (result : Except Failure (Outcome Answer)) : Prop :=
  ∃ outcome, result = .ok outcome

namespace World

def update (pattern : Pattern) (command : UpdateRole) (clock : Clock) (world : World) :
    Except Failure (Outcome Answer) × World :=
  step pattern ⟨.updateRole command, clock, false⟩ world

variable {pattern : Pattern} {command : UpdateRole} {world : World} {role : Role}

/-- An accepted update succeeds and stores the role that it makes. -/
theorem update_accepted (hfound : world.store.role? command.id = some role)
    (hopen : role.isSystem = false) (h : command.Accepted pattern world.store role)
    (clock : Clock) :
    Succeeded (world.update pattern command clock).1 ∧
      (world.update pattern command clock).2.store =
        world.store.putRole (command.applied role clock world.supply) := by
  obtain ⟨_, _, hsync⟩ := UpdateRole.synced_applied hopen h.kept clock world.supply
  have hrun := UseCase.updateRole_run clock world.store world.supply command
  simp only [hfound, h.free, hopen, hsync, Bool.false_eq_true, if_false] at hrun
  have hvalid : Validation.breaches pattern (.updateRole command) = [] :=
    Validation.breaches_nil_iff.mpr h.kept
  obtain ⟨hends, hstore⟩ := step_done hvalid hrun
  exact ⟨⟨_, hends⟩, hstore⟩

theorem update_succeeded_iff (hfound : world.store.role? command.id = some role)
    (hopen : role.isSystem = false) (clock : Clock) :
    Succeeded (world.update pattern command clock).1 ↔
      command.Accepted pattern world.store role := by
  refine ⟨?_, fun h => (update_accepted hfound hopen h clock).1⟩
  rintro ⟨outcome, hends⟩
  by_cases hkept : (Request.updateRole command).KeepsRules pattern
  · refine ⟨hkept, ?_⟩
    by_contra htaken
    have hrun := UseCase.updateRole_run clock world.store world.supply command
    simp only [hfound, if_pos (eq_true_of_ne_false htaken)] at hrun
    rw [update, step_valid (Validation.breaches_nil_iff.mpr hkept)] at hends
    simp [execute, Request.useCase, hrun] at hends
  · rw [update, step_invalid (mt Validation.breaches_nil_iff.mp hkept)] at hends
    cases hends

theorem update_settled (hfound : world.store.role? command.id = some role)
    (hopen : role.isSystem = false) (h : command.Accepted pattern world.store role)
    (hname : command.name = role.name) (hdescription : command.description = role.description)
    (hactions : ∀ action, action ∈ role.actions ↔ action ∈ command.permissions) (clock : Clock) :
    Succeeded (world.update pattern command clock).1 ∧
      (world.update pattern command clock).2.store =
        world.store.putRole { role with updatedAt := some (clock.reading 0) } := by
  have haccepted := update_accepted hfound hopen h clock
  rwa [UpdateRole.applied_settled hopen h.kept hname hdescription hactions] at haccepted

/-- What an update has made of a role, and that it stands in the way of no other command. -/
structure Made (pattern : Pattern) (command : UpdateRole) (role : Role) (before after : Store)
    (made : Role) : Prop where
  found : after.role? role.id = some made
  id : made.id = role.id
  changeable : made.isSystem = false
  name : made.name = command.name
  description : made.description = command.description
  actions : ∀ action, action ∈ made.actions ↔ action ∈ command.permissions
  distinct : role.actions.Nodup → made.actions.Nodup
  accepted : ∀ other : UpdateRole,
    other.Accepted pattern after made ↔ other.Accepted pattern before role

theorem update_made (hfound : world.store.role? role.id = some role)
    (hopen : role.isSystem = false) (hid : command.id = role.id) {clock : Clock}
    (h : Succeeded (world.update pattern command clock).1) :
    ∃ made, Made pattern command role world.store (world.update pattern command clock).2.store
      made := by
  rw [← hid] at hfound
  have haccepted := (update_succeeded_iff hfound hopen clock).mp h
  obtain ⟨_, hstore⟩ := update_accepted hfound hopen haccepted clock
  rw [hstore]
  refine ⟨command.applied role clock world.supply, ?_, rfl, hopen, rfl, rfl, ?_, ?_, ?_⟩
  · exact (Table.find_put _ _ _).trans (if_pos rfl)
  · intro action
    exact UpdateRole.mem_actions_applied hopen haccepted.kept clock world.supply
  · intro hdistinct
    exact UpdateRole.applied_distinct hdistinct clock world.supply
  · intro other
    have hfree := world.store.nameTaken_putRole (command.applied role clock world.supply) other.name
      role.scope
    exact ⟨fun h => ⟨h.kept, hfree.symm.trans h.free⟩, fun h => ⟨h.kept, hfree.trans h.free⟩⟩

end World

/-- The laws of updating one role, whenever it is done and read. -/
structure UpdateLaws (pattern : Pattern) (world : World) (role : Role) : Prop where
  /-- What is put is got. -/
  put_get : ∀ (command : UpdateRole) (clock later : Clock), command.id = role.id →
    let updated := world.update pattern command clock
    Succeeded updated.1 →
      ∃ view, (World.step pattern ⟨.getRole role.id, later, false⟩ updated.2).1 =
          .ok (.query (.role view)) ∧
        view.name = command.name ∧ view.description = command.description ∧
        (∀ action, action ∈ view.permissions ↔ action ∈ command.permissions) ∧
        (role.actions.Nodup → view.permissions.Nodup)
  /-- Putting what is got changes only the time of the update. -/
  get_put : ∀ clock : Clock,
    let own : UpdateRole := ⟨role.id, role.name, role.description, role.actions⟩
    let updated := world.update pattern own clock
    (Request.updateRole own).KeepsRules pattern →
      Succeeded updated.1 ∧
        updated.2.store = world.store.putRole { role with updatedAt := some (clock.reading 0) }
  /-- Of two commands the second counts, and once is enough. -/
  put_put : ∀ (first second : UpdateRole) (clock next last : Clock),
    first.id = role.id → second.id = role.id →
    let once := world.update pattern first clock
    let twice := once.2.update pattern second next
    let alone := world.update pattern second next
    let again := twice.2.update pattern second last
    Succeeded once.1 →
      (Succeeded twice.1 ↔ Succeeded alone.1) ∧
      (Succeeded twice.1 → ∃ left right,
        twice.2.store.role? role.id = some left ∧ alone.2.store.role? role.id = some right ∧
        left.name = right.name ∧ left.description = right.description ∧
        (∀ action, action ∈ left.actions ↔ action ∈ right.actions) ∧
        Succeeded again.1 ∧
        again.2.store = twice.2.store.putRole { left with updatedAt := some (last.reading 0) })

/-- Where names are unique within scopes, updating a role that may change obeys the laws. -/
theorem update_is_lens (pattern : Pattern) (world : World) (role : Role)
    (hnames : world.store.OwnNames) (hfound : world.store.role? role.id = some role)
    (hopen : role.isSystem = false) : UpdateLaws pattern world role := by
  refine ⟨?_, ?_, ?_⟩
  · intro command clock later hid updated hsucceeded
    obtain ⟨made, hmade⟩ := World.update_made hfound hopen hid hsucceeded
    refine ⟨made.view, ?_, hmade.name, hmade.description, hmade.actions, hmade.distinct⟩
    rw [World.getRole_answer, hmade.found]
    rfl
  · intro clock own updated hkept
    have hfree : world.store.nameTaken role.name role.scope (some role.id) = false := by
      apply Store.nameFree_iff.mpr
      intro other ho hname hscope
      rw [hnames other ho role (Table.find_iff.mp hfound).1 hname hscope]
    exact World.update_settled hfound hopen ⟨hkept, hfree⟩ rfl rfl (fun _ => Iff.rfl) clock
  · intro first second clock next last hfirst hsecond once twice alone again honce
    obtain ⟨middle, hmiddle⟩ := World.update_made hfound hopen hfirst honce
    have hfoundMiddle : once.2.store.role? middle.id = some middle := by
      rw [hmiddle.id, hmiddle.found]
    have hsecondMiddle : second.id = middle.id := hsecond.trans hmiddle.id.symm
    have hiff : Succeeded twice.1 ↔ Succeeded alone.1 :=
      (World.update_succeeded_iff (hsecondMiddle ▸ hfoundMiddle) hmiddle.changeable next).trans
        ((hmiddle.accepted second).trans
          (World.update_succeeded_iff (hsecond ▸ hfound) hopen next).symm)
    refine ⟨hiff, ?_⟩
    intro htwice
    obtain ⟨left, hleft⟩ :=
      World.update_made hfoundMiddle hmiddle.changeable hsecondMiddle htwice
    obtain ⟨right, hright⟩ := World.update_made hfound hopen hsecond (hiff.mp htwice)
    have haccepted : second.Accepted pattern twice.2.store left :=
      (hleft.accepted second).mpr ((World.update_succeeded_iff (hsecondMiddle ▸ hfoundMiddle)
        hmiddle.changeable next).mp htwice)
    have hstored : twice.2.store.role? second.id = some left :=
      hsecondMiddle ▸ hleft.found
    refine ⟨left, right, hsecond ▸ hstored, hright.found, hleft.name.trans hright.name.symm,
      hleft.description.trans hright.description.symm, ?_, ?_⟩
    · intro action
      exact (hleft.actions action).trans (hright.actions action).symm
    · exact World.update_settled hstored hleft.changeable haccepted hleft.name.symm
        hleft.description.symm hleft.actions last

theorem held_reader_update_laws :
    let pattern := Pattern.star false (.one .dot)
    let reader : Role :=
      ⟨Uuid.ofNat 1, "reader", ⟨.organization, Uuid.ofNat 7⟩, .epoch, none, false,
      none, [⟨Uuid.ofNat 2, Uuid.ofNat 1, "doc:read", .epoch⟩]⟩
    let first : UpdateRole := ⟨Uuid.ofNat 1, "writer", none, ["doc:write", "doc:share"]⟩
    let second : UpdateRole := ⟨Uuid.ofNat 1, "author", none, ["doc:read", "doc:share", "doc:read"]⟩
    let once := heldReader.update pattern first .epoch
    let twice := once.2.update pattern second .epoch
    let alone := heldReader.update pattern second .epoch
    heldReader.store.OwnNames ∧ heldReader.store.role? reader.id = some reader ∧
      reader.isSystem = false ∧ Succeeded once.1 ∧ Succeeded twice.1 ∧
      ∃ left right, twice.2.store.role? reader.id = some left ∧
        alone.2.store.role? reader.id = some right ∧ left.actions ≠ right.actions ∧
        left.name = right.name ∧ ∀ action, action ∈ left.actions ↔ action ∈ right.actions := by
  intro pattern reader first second once twice alone
  have hnames : heldReader.store.OwnNames := by
    unfold Store.OwnNames
    decide +kernel
  have hfound : heldReader.store.role? reader.id = some reader := by decide +kernel
  have hlaws := update_is_lens pattern heldReader reader hnames hfound rfl
  have honce : Succeeded once.1 :=
    (World.update_accepted hfound rfl ⟨by decide +kernel, by decide +kernel⟩ .epoch).1
  have hsecond : second.Accepted pattern heldReader.store reader :=
    ⟨by decide +kernel, by decide +kernel⟩
  obtain ⟨hiff, htwice⟩ := hlaws.put_put first second .epoch .epoch .epoch rfl rfl honce
  have hends := hiff.mpr (World.update_accepted hfound rfl hsecond .epoch).1
  obtain ⟨left, right, hleft, hright, hname, _, hactions, _⟩ := htwice hends
  refine ⟨hnames, hfound, rfl, honce, hends, left, right, hleft, hright, ?_, hname, hactions⟩
  -- What is kept comes first, so the order tells that the first command came between.
  have hkept : (twice.2.store.role? reader.id).map Role.actions =
      some (["doc:share", "doc:read"] : List Text) := by decide +kernel
  have hfresh : (alone.2.store.role? reader.id).map Role.actions =
      some (["doc:read", "doc:share"] : List Text) := by decide +kernel
  rw [hleft, Option.map_some, Option.some.injEq] at hkept
  rw [hright, Option.map_some, Option.some.injEq] at hfresh
  rw [hkept, hfresh]
  decide

end Rbac
