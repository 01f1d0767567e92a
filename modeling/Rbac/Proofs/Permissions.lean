import Rbac.Proofs.Draws
import Rbac.Proofs.Repeats

namespace Rbac

def Supply.skip (supply : Supply) (count : Nat) : Supply :=
  { supply with used := supply.used + count }

theorem Supply.reaches_skip (supply : Supply) (count : Nat) : supply.Reaches (supply.skip count) :=
  ⟨rfl, Nat.le_add_right _ _⟩

theorem Supply.skip_advance (supply : Supply) (count : Nat) :
    supply.advance.skip count = supply.skip (count + 1) := by
  simp only [skip, advance, Nat.add_assoc, Nat.add_comm 1 count]

/-- New permissions of a role, one for each action, with the identifiers that come next and each
with a reading of the clock. -/
def Permission.series (role : Uuid) (clock : Clock) : Supply → List Text → List Permission
  | _, [] => []
  | supply, action :: rest =>
    ⟨supply.next, role, action, clock.reading 0⟩ ::
      series role (clock.past 1) supply.advance rest

theorem Permission.series_actions (role : Uuid) (clock : Clock) (supply : Supply)
    (actions : List Text) : (series role clock supply actions).map (·.action) = actions := by
  induction actions generalizing clock supply with
  | nil => rfl
  | cons action rest ih => simp [series, ih]

theorem Permission.of_mem_series {role : Uuid} {clock : Clock} {supply : Supply}
    {actions : List Text} {permission : Permission}
    (h : permission ∈ series role clock supply actions) :
    permission.id ∈ supply.drawnUntil (supply.skip actions.length) ∧ permission.role = role := by
  induction actions generalizing clock supply with
  | nil => cases h
  | cons action rest ih =>
    rw [List.length_cons, ← Supply.skip_advance]
    rcases List.mem_cons.mp h with rfl | hr
    · exact ⟨Supply.next_mem_drawnUntil (supply.advance.reaches_skip _), rfl⟩
    · obtain ⟨hid, hrole⟩ := ih hr
      have hreach := supply.advance.reaches_skip rest.length
      exact ⟨Supply.drawnUntil_second supply.reaches_advance hreach _ hid, hrole⟩

namespace Role

def extend (role : Role) (new : List Permission) : Role :=
  { role with permissions := role.permissions ++ new }

def keep (role : Role) (wanted : Text → Bool) : Role :=
  { role with permissions := role.permissions.filter fun permission => wanted permission.action }

theorem extend_nil (role : Role) : role.extend [] = role := by
  simp [extend]

theorem extend_extend (role : Role) (new others : List Permission) :
    (role.extend new).extend others = role.extend (new ++ others) := by
  simp [extend]

theorem actions_extend (role : Role) (new : List Permission) :
    (role.extend new).actions = role.actions ++ new.map (·.action) := by
  simp [extend, actions]

theorem mem_actions_keep {role : Role} {wanted : Text → Bool} {action : Text} :
    action ∈ (role.keep wanted).actions ↔ action ∈ role.actions ∧ wanted action = true := by
  simp only [keep, actions, List.mem_map, List.mem_filter]
  constructor
  · rintro ⟨permission, ⟨hm, hw⟩, rfl⟩
    exact ⟨⟨permission, hm, rfl⟩, hw⟩
  · rintro ⟨⟨permission, hm, rfl⟩, hw⟩
    exact ⟨permission, ⟨hm, hw⟩, rfl⟩

theorem has_iff {role : Role} {action : Text} :
    role.has action = true ↔ action ∈ role.actions := by
  simp [has, actions]

def refusal? (role : Role) (action : Text) : Option Failure :=
  if role.isSystem then some .systemRolePermissions
  else if role.has action then some (.actionPresent action)
  else if Text.isBlank action then some .emptyAction
  else none

theorem add_run (role : Role) (action : Text) (moment : Instant) (supply : Supply) :
    (role.add action moment).run supply =
      match role.refusal? action with
      | some failure => ((.error failure, role), supply)
      | none =>
        let permission := ⟨supply.next, role.id, action, moment⟩
        ((.ok permission, role.extend [permission]), supply.advance) := by
  simp only [add, refusal?]
  by_cases hs : role.isSystem
  · simp [hs]
  by_cases hp : role.has action
  · simp [hs, hp]
  by_cases hb : Text.isBlank action
  · simp [hs, hp, hb, Permission.create]
  · simp [hs, hp, hb, Permission.create, extend]

/-- Actions are added from the front up to the first that the role, as it is by then, refuses. -/
theorem addEach_run (role : Role) (clock : Clock) (actions : List Text) (supply : Supply) :
    ∃ front rest after, actions = front ++ rest ∧
      after = role.extend (Permission.series role.id clock supply front) ∧
      ((rest = [] ∧ (role.addEach clock actions).run supply =
          ((.ok (), after), supply.skip front.length)) ∨
        ∃ action tail failure, rest = action :: tail ∧ after.refusal? action = some failure ∧
          (role.addEach clock actions).run supply =
            ((.error failure, after), supply.skip front.length)) := by
  induction actions generalizing role clock supply with
  | nil => exact ⟨[], [], role, rfl, role.extend_nil.symm, Or.inl ⟨rfl, rfl⟩⟩
  | cons action actions ih =>
    have hadd := role.add_run action (clock.reading 0) supply
    cases hr : role.refusal? action with
    | some failure =>
      refine ⟨[], action :: actions, role, rfl, role.extend_nil.symm, Or.inr ?_⟩
      refine ⟨action, actions, failure, rfl, hr, ?_⟩
      simp only [hr] at hadd
      simp [addEach, hadd, Supply.skip]
    | none =>
      simp only [hr] at hadd
      obtain ⟨front, rest, after, he, ha, hrun⟩ :=
        ih (role.extend [⟨supply.next, role.id, action, clock.reading 0⟩]) (clock.past 1)
          supply.advance
      have hsame : after =
          role.extend (Permission.series role.id clock supply (action :: front)) := by
        rw [ha, extend_extend]
        rfl
      refine ⟨action :: front, rest, after, by simp [he], hsame, ?_⟩
      rw [List.length_cons, ← Supply.skip_advance]
      rcases hrun with ⟨hn, hrun⟩ | ⟨next, tail, failure, hn, hf, hrun⟩
      · exact Or.inl ⟨hn, by simp [addEach, hadd, hrun]⟩
      · exact Or.inr ⟨next, tail, failure, hn, hf, by simp [addEach, hadd, hrun]⟩

theorem addEach_ok {role after : Role} {clock : Clock} {actions : List Text}
    {supply later : Supply}
    (h : (role.addEach clock actions).run supply = ((.ok (), after), later)) :
    after = role.extend (Permission.series role.id clock supply actions) ∧
      later = supply.skip actions.length := by
  obtain ⟨front, rest, reached, he, hr, ⟨hn, hrun⟩ | ⟨_, _, _, _, _, hrun⟩⟩ :=
    role.addEach_run clock actions supply
  · rw [hn, List.append_nil] at he
    rw [h] at hrun
    simp only [Prod.mk.injEq, true_and] at hrun
    rw [he, ← hr]
    exact hrun
  · rw [h] at hrun
    simp at hrun

/-- However far adding gets, what comes to the role are new permissions of its own. -/
theorem addEach_extends {role after : Role} {clock : Clock} {actions : List Text}
    {supply later : Supply} {result : Except Failure Unit}
    (h : (role.addEach clock actions).run supply = ((result, after), later)) :
    ∃ new, after = role.extend new ∧
      ∀ permission ∈ new, permission.id ∈ supply.drawnUntil later ∧ permission.role = role.id := by
  obtain ⟨front, rest, reached, _, hr, hrun⟩ := role.addEach_run clock actions supply
  refine ⟨Permission.series role.id clock supply front, ?_⟩
  have hend : after = reached ∧ later = supply.skip front.length := by
    rcases hrun with ⟨_, hrun⟩ | ⟨_, _, _, _, _, hrun⟩
    all_goals
      rw [h] at hrun
      simp only [Prod.mk.injEq] at hrun
      exact ⟨hrun.1.2, hrun.2⟩
  refine ⟨hend.1.trans hr, ?_⟩
  intro permission hp
  rw [hend.2]
  exact Permission.of_mem_series hp

theorem refusal_domain {role : Role} {action : Text} {failure : Failure}
    (h : role.refusal? action = some failure) : ∃ message, failure = .domain message := by
  simp only [refusal?] at h
  split at h
  · exact ⟨_, (Option.some.inj h).symm⟩
  · split at h
    · exact ⟨_, (Option.some.inj h).symm⟩
    · split at h
      · exact ⟨_, (Option.some.inj h).symm⟩
      · cases h

theorem refusal_none {role : Role} {action : Text} (h : role.refusal? action = none) :
    role.isSystem = false ∧ action ∉ role.actions ∧ Text.isBlank action = false := by
  simp only [refusal?] at h
  split at h
  · cases h
  · rename_i hs
    split at h
    · cases h
    · rename_i hp
      split at h
      · cases h
      · rename_i hb
        exact ⟨by simpa using hs, fun hin => hp (has_iff.mpr hin), by simpa using hb⟩

theorem addEach_distinct {role after : Role} {clock : Clock} {actions : List Text}
    {supply later : Supply}
    (h : (role.addEach clock actions).run supply = ((.ok (), after), later)) :
    actions.Nodup ∧ ∀ action ∈ actions, action ∉ role.actions := by
  induction actions generalizing role clock supply with
  | nil => simp
  | cons action rest ih =>
    have hadd := role.add_run action (clock.reading 0) supply
    cases hr : role.refusal? action with
    | some failure =>
      simp only [hr] at hadd
      simp [addEach, hadd] at h
    | none =>
      simp only [hr] at hadd
      simp only [addEach, Draw.run_bind, hadd] at h
      obtain ⟨hrest, hothers⟩ := ih h
      have hnew : action ∉ role.actions := (refusal_none hr).2.1
      simp only [actions_extend, List.map_singleton, List.mem_append, List.mem_singleton,
        not_or] at hothers
      refine ⟨List.nodup_cons.mpr ⟨fun hin => (hothers action hin).2 rfl, hrest⟩, ?_⟩
      intro other ho
      rcases List.mem_cons.mp ho with rfl | hin
      · exact hnew
      · exact (hothers other hin).1

theorem addEach_error {role after : Role} {clock : Clock} {actions : List Text}
    {supply later : Supply} {failure : Failure}
    (h : (role.addEach clock actions).run supply = ((.error failure, after), later)) :
    ∃ message, failure = .domain message := by
  obtain ⟨_, _, _, _, _, ⟨_, hrun⟩ | ⟨_, _, reason, _, hf, hrun⟩⟩ :=
    role.addEach_run clock actions supply
  · rw [h] at hrun
    simp at hrun
  · rw [h] at hrun
    simp only [Prod.mk.injEq, Except.error.injEq] at hrun
    rw [hrun.1.1]
    exact refusal_domain hf

theorem refusal_absent {role : Role} {action : Text} (hs : role.isSystem = false)
    (h : action ∉ role.actions) :
    role.refusal? action = if Text.isBlank action then some .emptyAction else none := by
  have habsent : ¬ role.has action = true := mt has_iff.mp h
  simp [refusal?, hs, habsent]

/-- A role that may change takes actions that are neither repeated nor there, up to the first blank
one. -/
theorem addEach_visible (role : Role) (actions : List Text) (clock : Clock) (supply : Supply)
    (hs : role.isSystem = false) (hu : actions.Nodup)
    (hn : ∀ action ∈ actions, action ∉ role.actions) :
    let front := actions.takeWhile fun action => !Text.isBlank action
    (role.addEach clock actions).run supply =
      ((if actions.any Text.isBlank then .error .emptyAction else .ok (),
        role.extend (Permission.series role.id clock supply front)), supply.skip front.length) := by
  induction actions generalizing role clock supply with
  | nil => simp [addEach, Permission.series, extend_nil, Supply.skip]
  | cons action rest ih =>
    obtain ⟨hnew, hrest⟩ := List.nodup_cons.mp hu
    have hadd := role.add_run action (clock.reading 0) supply
    rw [refusal_absent hs (hn action (by simp))] at hadd
    cases hb : Text.isBlank action with
    | true =>
      simp only [hb, if_true] at hadd
      simp [addEach, hadd, hb, Permission.series, extend_nil, Supply.skip]
    | false =>
      simp only [hb, Bool.false_eq_true, if_false] at hadd
      obtain ⟨longer, hlonger⟩ : ∃ longer, longer =
          role.extend [⟨supply.next, role.id, action, clock.reading 0⟩] := ⟨_, rfl⟩
      -- The other actions are still new to the role with this one.
      have hothers : ∀ other ∈ rest, other ∉ longer.actions := by
        intro other ho hin
        rw [hlonger, actions_extend, List.mem_append, List.map_singleton, List.mem_singleton] at hin
        rcases hin with hold | rfl
        · exact hn other (List.mem_cons_of_mem _ ho) hold
        · exact hnew ho
      have hrun := ih longer (clock.past 1) supply.advance (by rw [hlonger]; exact hs) hrest hothers
      rw [hlonger] at hrun
      simp only [extend_extend, Supply.skip_advance] at hrun
      simp only [addEach, Draw.run_bind, hadd, hrun]
      simp [hb, Permission.series, extend]

theorem addEach_system {role : Role} (hs : role.isSystem = true) (actions : List Text)
    (clock : Clock) (supply : Supply) :
    (role.addEach clock actions).run supply =
      ((if actions = [] then .ok () else .error .systemRolePermissions, role), supply) := by
  cases actions with
  | nil => rfl
  | cons action rest => simp [addEach, add, hs]

end Role
end Rbac
