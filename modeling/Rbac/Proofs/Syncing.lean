import Mathlib.Data.List.TakeWhile
import Rbac.Proofs.Permissions

namespace Rbac

/-- Erasing the first element that a filter drops leaves what the filter keeps, and drops that
element from what it drops. -/
theorem erase_first_dropped {permissions : List Permission} {wanted : Text → Bool}
    {action : Text} {rest : List Text}
    (h : (permissions.map (·.action)).filter (fun a => !wanted a) = action :: rest) :
    ((permissions.eraseP (·.action == action)).map (·.action)).filter (fun a => !wanted a) = rest ∧
      (permissions.eraseP (·.action == action)).filter (fun p => wanted p.action) =
        permissions.filter (fun p => wanted p.action) := by
  have hunwanted : wanted action = false := by
    have hm : action ∈ (permissions.map (·.action)).filter (fun a => !wanted a) := by simp [h]
    simpa using (List.mem_filter.mp hm).2
  induction permissions with
  | nil => simp at h
  | cons head tail ih =>
    cases hw : wanted head.action with
    | true =>
      have hne : (head.action == action) = false := by
        simp only [beq_eq_false_iff_ne]
        rintro rfl
        rw [hw] at hunwanted
        cases hunwanted
      simp only [List.map_cons, List.filter_cons, hw, Bool.not_true, Bool.false_eq_true,
        if_false] at h
      simpa [hne, hw] using ih h
    | false =>
      simp only [List.map_cons, List.filter_cons, hw, Bool.not_false, if_true,
        List.cons.injEq] at h
      obtain ⟨rfl, rfl⟩ := h
      simp [hw]

namespace Role

/-- Removing the surplus one by one leaves what is wanted, in its order. -/
theorem removeEach_surplus {role : Role} (hs : role.isSystem = false) (wanted : Text → Bool) :
    role.removeEach (role.actions.filter fun action => !wanted action) =
      (.ok (), role.keep wanted) := by
  -- On the surplus: each removal takes its first action away and leaves what is wanted as it was.
  generalize hl : role.actions.filter (fun action => !wanted action) = surplus
  induction surplus generalizing role with
  | nil =>
    have hall : ∀ permission ∈ role.permissions, wanted permission.action = true := by
      intro permission hp
      have hin : permission.action ∈ role.actions := List.mem_map.mpr ⟨permission, hp, rfl⟩
      simpa using List.filter_eq_nil_iff.mp hl permission.action hin
    simp [removeEach, keep, List.filter_eq_self.mpr hall]
  | cons action rest ih =>
    have hhas : role.has action = true := by
      apply has_iff.mpr
      have hm : action ∈ role.actions.filter fun action => !wanted action := by simp [hl]
      exact (List.mem_filter.mp hm).1
    obtain ⟨hrest, hkept⟩ := erase_first_dropped hl
    obtain ⟨shorter, hshorter⟩ : ∃ shorter : Role,
        shorter = { role with permissions := role.permissions.eraseP (·.action == action) } :=
      ⟨_, rfl⟩
    have hremove : role.remove action = .ok shorter := by
      rw [remove, if_neg (by simp [hs]), if_pos hhas, hshorter]
    have hkeep : shorter.keep wanted = role.keep wanted := by
      simp only [hshorter, keep, hkept]
    have hnext : shorter.removeEach rest = (.ok (), shorter.keep wanted) :=
      ih (by rw [hshorter, hs]) (by rw [hshorter]; exact hrest)
    simp only [removeEach, hremove, hnext, hkeep]

theorem removeEach_system {role : Role} (hs : role.isSystem = true) (actions : List Text) :
    role.removeEach actions =
      (if actions = [] then .ok () else .error .systemRolePermissions, role) := by
  cases actions with
  | nil => rfl
  | cons action rest => simp [removeEach, remove, hs]

def trimmed (role : Role) (requested : List Text) : Role :=
  role.keep fun action => (wanted requested).contains action

theorem sync_run {role : Role} (hs : role.isSystem = false) (requested : List Text)
    (clock : Clock) (supply : Supply) :
    (role.sync requested clock).run supply =
      let ran := ((role.trimmed requested).addEach clock (role.missing requested)).run supply
      ((ran.1.1.map fun _ => (role.missing requested, role.surplus requested), ran.1.2),
        ran.2) := by
  have hremoved : role.removeEach (role.surplus requested) = (.ok (), role.trimmed requested) :=
    removeEach_surplus hs _
  simp only [sync, hremoved, Draw.run_bind]
  generalize ((role.trimmed requested).addEach clock (role.missing requested)).run supply = ran
  obtain ⟨⟨_ | _, after⟩, later⟩ := ran
  · rfl
  · rfl

/-- Syncing a role that may change ends as adding what is missing to it ends, and leaves what that
leaves. -/
theorem sync_adds {role after : Role} {requested : List Text} {clock : Clock}
    {supply later : Supply} {result : Except Failure (List Text × List Text)}
    (hs : role.isSystem = false)
    (h : (role.sync requested clock).run supply = ((result, after), later)) :
    ∃ ended, ((role.trimmed requested).addEach clock (role.missing requested)).run supply =
        ((ended, after), later) ∧
      result = ended.map fun _ => (role.missing requested, role.surplus requested) := by
  rw [sync_run hs] at h
  simp only [Prod.mk.injEq] at h
  obtain ⟨⟨rfl, rfl⟩, rfl⟩ := h
  exact ⟨_, rfl, rfl⟩

theorem missing_nodup (role : Role) (requested : List Text) :
    (role.missing requested).Nodup :=
  (nodup_eraseDups requested).filter _

theorem mem_missing {role : Role} {requested : List Text} {action : Text} :
    action ∈ role.missing requested ↔ action ∈ requested ∧ action ∉ role.actions := by
  simp [missing, wanted, List.mem_eraseDups]

theorem mem_actions_trimmed {role : Role} {requested : List Text} {action : Text} :
    action ∈ (role.trimmed requested).actions ↔ action ∈ role.actions ∧ action ∈ requested := by
  simp [trimmed, mem_actions_keep, wanted, List.mem_eraseDups]

theorem extended_distinct {role : Role} {requested front : List Text}
    (h : role.actions.Nodup) (hfront : front.Sublist (role.missing requested)) (id : Uuid)
    (clock : Clock) (supply : Supply) :
    ((role.trimmed requested).extend (Permission.series id clock supply front)).actions.Nodup := by
  rw [actions_extend, Permission.series_actions, List.nodup_append]
  have htrimmed : (role.trimmed requested).actions.Sublist role.actions :=
    List.filter_sublist.map _
  refine ⟨h.sublist htrimmed, (missing_nodup _ _).sublist hfront, ?_⟩
  rintro held hheld new hnew rfl
  exact (mem_missing.mp (hfront.subset hnew)).2 (htrimmed.subset hheld)

/-- What syncing makes of a role that may change: its wanted permissions as they were, and new ones
for the missing actions in front of the first blank one. -/
theorem sync_visible {role : Role} (hs : role.isSystem = false) (requested : List Text)
    (clock : Clock) (supply : Supply) :
    let front := (role.missing requested).takeWhile fun action => !Text.isBlank action
    (role.sync requested clock).run supply =
      ((if (role.missing requested).any Text.isBlank then .error .emptyAction
        else .ok (role.missing requested, role.surplus requested),
        (role.trimmed requested).extend (Permission.series role.id clock supply front)),
        supply.skip front.length) := by
  have hadd := addEach_visible (role.trimmed requested) (role.missing requested) clock supply hs
    (role.missing_nodup requested)
    (fun action ha hin => (mem_missing.mp ha).2 (mem_actions_trimmed.mp hin).1)
  dsimp only at hadd ⊢
  rw [sync_run hs, hadd]
  cases (role.missing requested).any Text.isBlank with
  | true => rfl
  | false => rfl

theorem sync_unstopped {role : Role} {requested : List Text} (clock : Clock) (supply : Supply)
    (hs : role.isSystem = false)
    (hb : ∀ action ∈ role.missing requested, Text.isBlank action = false) :
    (role.sync requested clock).run supply =
      ((.ok (role.missing requested, role.surplus requested),
          (role.trimmed requested).extend
            (Permission.series role.id clock supply (role.missing requested))),
        supply.skip (role.missing requested).length) := by
  have hnone : (role.missing requested).any Text.isBlank = false := by simpa using hb
  have hall : (role.missing requested).takeWhile (fun action => !Text.isBlank action) =
      role.missing requested := List.takeWhile_eq_self_iff.mpr (by simpa using hb)
  have hran := sync_visible hs requested clock supply
  simpa only [hnone, hall, Bool.false_eq_true, if_false] using hran

theorem sync_succeeds {role : Role} {requested : List Text} (clock : Clock) (supply : Supply)
    (hs : role.isSystem = false) (hb : ∀ action ∈ requested, Text.isBlank action = false) :
    (role.sync requested clock).run supply =
      ((.ok (role.missing requested, role.surplus requested),
          (role.trimmed requested).extend
            (Permission.series role.id clock supply (role.missing requested))),
        supply.skip (role.missing requested).length) :=
  sync_unstopped clock supply hs fun action ha => hb action (mem_missing.mp ha).1

theorem sync_system {role : Role} (hs : role.isSystem = true) (requested : List Text)
    (clock : Clock) (supply : Supply) :
    (role.sync requested clock).run supply =
      ((if role.surplus requested = [] ∧ role.missing requested = [] then .ok ([], [])
        else .error .systemRolePermissions, role), supply) := by
  by_cases hremoved : role.surplus requested = []
  · by_cases hadded : role.missing requested = []
    · simp [sync, removeEach_system hs, hremoved, hadded, addEach]
    · simp [sync, removeEach_system hs, hremoved, hadded, addEach_system hs]
  · simp [sync, removeEach_system hs, hremoved]

theorem sync_settled {role : Role} {requested : List Text}
    (h : ∀ action, action ∈ role.actions ↔ action ∈ requested) (clock : Clock) (supply : Supply) :
    (role.sync requested clock).run supply = ((.ok ([], []), role), supply) := by
  have hremoved : role.surplus requested = [] := by
    apply List.filter_eq_nil_iff.mpr
    intro action ha
    simp [wanted, List.mem_eraseDups, (h action).mp ha]
  have hadded : role.missing requested = [] := by
    apply List.eq_nil_iff_forall_not_mem.mpr
    intro action ha
    obtain ⟨hin, hnot⟩ := mem_missing.mp ha
    exact hnot ((h action).mpr hin)
  simp [sync, hremoved, hadded, removeEach, addEach]

theorem sync_extends {role after : Role} {requested : List Text} {clock : Clock}
    {supply later : Supply} {result : Except Failure (List Text × List Text)}
    (hs : role.isSystem = false)
    (h : (role.sync requested clock).run supply = ((result, after), later)) :
    ∃ new, after = (role.trimmed requested).extend new ∧
      ∀ permission ∈ new, permission.id ∈ supply.drawnUntil later ∧ permission.role = role.id := by
  obtain ⟨_, hadd, _⟩ := sync_adds hs h
  exact addEach_extends hadd

theorem sync_error {role after : Role} {requested : List Text} {clock : Clock}
    {supply later : Supply} {failure : Failure} (hs : role.isSystem = false)
    (h : (role.sync requested clock).run supply = ((.error failure, after), later)) :
    ∃ message, failure = .domain message := by
  obtain ⟨ended, hadd, hended⟩ := sync_adds hs h
  cases ended with
  | error reason =>
    cases hended
    exact addEach_error hadd
  | ok _ => cases hended

theorem mem_actions_synced {role after : Role} {requested : List Text} {clock : Clock}
    {supply later : Supply} {changes : List Text × List Text} {action : Text}
    (hs : role.isSystem = false)
    (h : (role.sync requested clock).run supply = ((.ok changes, after), later)) :
    action ∈ after.actions ↔ action ∈ requested := by
  obtain ⟨ended, hadd, hended⟩ := sync_adds hs h
  cases ended with
  | error failure => cases hended
  | ok _ =>
    obtain ⟨hreached, _⟩ := addEach_ok hadd
    rw [hreached, actions_extend, Permission.series_actions, List.mem_append,
      mem_actions_trimmed, mem_missing]
    constructor
    · rintro (⟨_, hin⟩ | ⟨hin, _⟩)
      · exact hin
      · exact hin
    · intro hin
      by_cases hheld : action ∈ role.actions
      · exact Or.inl ⟨hheld, hin⟩
      · exact Or.inr ⟨hin, hheld⟩

/-- Syncing in full. The surplus goes with all its repeats; what is missing comes in the order in
which it is first requested. A system role refuses unless there is nothing to do, and stays as it
is. Another role keeps its wanted permissions untouched and in place. Without a blank action to add
it then has the requested actions, and syncing it again with the same ones, however ordered and
repeated, does nothing. A blank action stops it after the removals and the additions in front. -/
theorem sync_exactly (role : Role) (requested : List Text) (clock : Clock) (supply : Supply) :
    let wanted := requested.eraseDups
    let removed := role.actions.filter fun action => action ∉ wanted
    let added := wanted.filter fun action => action ∉ role.actions
    let synced := fun actions : List Text =>
      { role with permissions :=
          (role.permissions.filter fun permission => permission.action ∈ wanted) ++
            Permission.series role.id clock supply actions }
    let ran := (role.sync requested clock).run supply
    (role.isSystem = true →
      ran = ((if removed = [] ∧ added = [] then .ok ([], []) else .error .systemRolePermissions,
        role), supply)) ∧
    (role.isSystem = false → (∀ action ∈ added, Text.isBlank action = false) →
      ran = ((.ok (added, removed), synced added), supply.skip added.length) ∧
        (∀ action, action ∈ (synced added).actions ↔ action ∈ requested) ∧
        ∀ again, (∀ action, action ∈ again ↔ action ∈ requested) → ∀ later more,
          ((synced added).sync again later).run more = ((.ok ([], []), synced added), more)) ∧
    (role.isSystem = false → (∃ action ∈ added, Text.isBlank action = true) →
      let front := added.takeWhile fun action => !Text.isBlank action
      ran = ((.error .emptyAction, synced front), supply.skip front.length)) := by
  intro wanted removed added synced ran
  have hremoved : role.surplus requested = removed := by
    simp [surplus, Role.wanted, removed, wanted]
  have hadded : role.missing requested = added := by
    simp [missing, Role.wanted, added, wanted]
  have hsynced : ∀ actions, (role.trimmed requested).extend
      (Permission.series role.id clock supply actions) = synced actions := by
    intro actions
    simp [trimmed, keep, extend, Role.wanted, synced, wanted]
  refine ⟨?_, ?_, ?_⟩
  · intro hs
    rw [← hremoved, ← hadded]
    exact sync_system hs requested clock supply
  · intro hs hvisible
    have hran : ran = ((.ok (added, removed), synced added), supply.skip added.length) := by
      rw [← hadded] at hvisible ⊢
      rw [← hremoved, ← hsynced]
      exact sync_unstopped clock supply hs hvisible
    have hactions : ∀ action, action ∈ (synced added).actions ↔ action ∈ requested :=
      fun _ => mem_actions_synced hs hran
    refine ⟨hran, hactions, ?_⟩
    intro again hagain later more
    exact sync_settled (fun action => (hactions action).trans (hagain action).symm) later more
  · intro hs hblank front
    have hany : (role.missing requested).any Text.isBlank = true := by
      rw [hadded]
      exact List.any_eq_true.mpr hblank
    have hran := sync_visible hs requested clock supply
    rw [hany, if_pos rfl] at hran
    simpa only [hadded, hsynced] using hran

def twofold : Role where
  id := Uuid.ofNat 1
  name := "reader"
  scope := ⟨.organization, Uuid.ofNat 7⟩
  createdAt := .epoch
  permissions := [⟨Uuid.ofNat 2, Uuid.ofNat 1, "doc:read", .epoch⟩,
    ⟨Uuid.ofNat 3, Uuid.ofNat 1, "doc:write", .epoch⟩,
    ⟨Uuid.ofNat 4, Uuid.ofNat 1, "doc:read", .epoch⟩,
    ⟨Uuid.ofNat 5, Uuid.ofNat 1, "doc:write", .epoch⟩]

theorem twofold_synced :
    let requested : List Text := ["doc:share", "doc:write", "doc:share"]
    let synced := { twofold with permissions :=
      [⟨Uuid.ofNat 3, Uuid.ofNat 1, "doc:write", .epoch⟩,
        ⟨Uuid.ofNat 5, Uuid.ofNat 1, "doc:write", .epoch⟩,
        ⟨Uuid.ofNat 101, Uuid.ofNat 1, "doc:share", .epoch⟩] }
    twofold.isSystem = false ∧
      (twofold.sync requested .epoch).run (.after 100) =
        ((.ok (["doc:share"], ["doc:read", "doc:read"]), synced), (Supply.after 100).skip 1) ∧
      (synced.sync ["doc:write", "doc:share"] .epoch).run (.after 200) =
        ((.ok ([], []), synced), .after 200) ∧
      (twofold.sync ["doc:share", "doc:write", "", "doc:late"] .epoch).run (.after 100) =
        ((.error .emptyAction, synced), (Supply.after 100).skip 1) := by
  intro requested synced
  have hopen : twofold.isSystem = false := rfl
  obtain ⟨hran, _, hagain⟩ := (sync_exactly twofold requested .epoch (.after 100)).2.1 hopen
    (by decide +kernel)
  have hsame : ∀ action : Text, action ∈ (["doc:write", "doc:share"] : List Text) ↔
      action ∈ requested := by
    simp [requested, or_comm]
  have hstopped := (sync_exactly twofold ["doc:share", "doc:write", "", "doc:late"] .epoch
    (.after 100)).2.2 hopen (by decide +kernel)
  exact ⟨hopen, hran, hagain _ hsame .epoch (.after 200), hstopped⟩

end Role
end Rbac
