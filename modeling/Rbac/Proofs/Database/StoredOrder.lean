import Rbac.Proofs.Database.Overwriting

namespace Rbac

namespace Role

/-- Adds actions, each at a moment of its own. One that is refused leaves the role as it was. -/
def addAll (role : Role) : List (Text × Instant) → Draw Role
  | [] => pure role
  | (action, moment) :: rest => do
    let (_, role) ← role.add action moment
    role.addAll rest

/-- A role as it is built: created, and then given actions. -/
def build (name : Text) (description : Option Text) (scope : Scope) (clock : Clock)
    (additions : List (Text × Instant)) : Draw Role := do
  let (role, _) ← create name description scope clock
  role.addAll additions

def sorted (role : Role) : Role :=
  { role with permissions := role.permissions.mergeSort Sql.permissionLe }

variable {role after : Role} {supply later : Supply}

/-- However many actions are refused, a tidy role stays tidy and gets permissions with new ids for
some of the actions. -/
theorem addAll_extends {additions : List (Text × Instant)} (htidy : role.Tidy)
    (h : (role.addAll additions).run supply = (after, later))
    (hdistinct : (supply.drawnUntil later).Nodup)
    (hnew : ∀ id ∈ supply.drawnUntil later, id ∉ role.permissions.map (·.id)) :
    after.Tidy ∧ ∃ new, after = role.extend new ∧ ∀ permission ∈ new,
      permission.id ∈ supply.drawnUntil later ∧ permission.action ∈ additions.map (·.1) := by
  induction additions generalizing role supply with
  | nil =>
    simp only [addAll, Draw.run_pure, Prod.mk.injEq] at h
    obtain ⟨rfl, rfl⟩ := h
    exact ⟨htidy, [], role.extend_nil.symm, by simp⟩
  | cons addition rest ih =>
    obtain ⟨action, moment⟩ := addition
    have hadd := role.add_run action moment supply
    cases hr : role.refusal? action with
    | some failure =>
      simp only [hr] at hadd
      simp only [addAll, Draw.run_bind, hadd] at h
      obtain ⟨hafter, new, hextend, hnews⟩ := ih htidy h hdistinct hnew
      refine ⟨hafter, new, hextend, ?_⟩
      intro permission hp
      exact ⟨(hnews permission hp).1, List.mem_cons_of_mem _ (hnews permission hp).2⟩
    | none =>
      simp only [hr] at hadd
      simp only [addAll, Draw.run_bind, hadd] at h
      have hreach : supply.advance.Reaches later := by
        have := Draw.run_reaches
          ((role.extend [⟨supply.next, role.id, action, moment⟩]).addAll rest) supply.advance
        rwa [h] at this
      rw [Supply.drawnUntil_cons hreach] at hdistinct hnew ⊢
      obtain ⟨hnext, hrest⟩ := List.nodup_cons.mp hdistinct
      have hone : (role.extend [⟨supply.next, role.id, action, moment⟩]).Tidy :=
        htidy.extend_one hr (hnew _ List.mem_cons_self) moment
      have hothers : ∀ id ∈ supply.advance.drawnUntil later, id ∉
          (role.extend [⟨supply.next, role.id, action, moment⟩]).permissions.map (·.id) := by
        intro id hid hin
        rw [extend, List.map_append, List.mem_append] at hin
        rcases hin with hold | hadded
        · exact hnew id (List.mem_cons_of_mem _ hid) hold
        · rw [List.mem_singleton.mp hadded] at hid
          exact hnext hid
      obtain ⟨hafter, new, hextend, hnews⟩ := ih hone h hrest hothers
      refine ⟨hafter, _ :: new, hextend.trans (role.extend_extend _ _), ?_⟩
      intro permission hp
      rcases List.mem_cons.mp hp with rfl | hlater
      · exact ⟨List.mem_cons_self, List.mem_cons_self⟩
      · exact ⟨List.mem_cons_of_mem _ (hnews permission hlater).1,
          List.mem_cons_of_mem _ (hnews permission hlater).2⟩

theorem addAll_of_addEach {clock : Clock} {actions : List Text}
    (h : (role.addEach clock actions).run supply = ((.ok (), after), later)) :
    ∃ additions : List (Text × Instant), additions.map (·.1) = actions ∧
      (role.addAll additions).run supply = (after, later) := by
  induction actions generalizing role clock supply with
  | nil =>
    simp only [addEach, Draw.run_pure, Prod.mk.injEq, true_and] at h
    obtain ⟨rfl, rfl⟩ := h
    exact ⟨[], rfl, rfl⟩
  | cons action rest ih =>
    have hadd := role.add_run action (clock.reading 0) supply
    cases hr : role.refusal? action with
    | some failure =>
      simp only [hr] at hadd
      simp [addEach, hadd] at h
    | none =>
      simp only [hr] at hadd
      simp only [addEach, Draw.run_bind, hadd] at h
      obtain ⟨additions, hactions, hrun⟩ := ih h
      refine ⟨(action, clock.reading 0) :: additions, by rw [List.map_cons, hactions], ?_⟩
      simp only [addAll, Draw.run_bind, hadd, hrun]

/-- Sorting moves no action just if the permissions already stand in their order. -/
theorem sorted_actions_iff (htidy : role.Tidy) :
    role.sorted.actions = role.actions ↔ role.permissions.Pairwise Permission.Precedes := by
  have hperm := List.mergeSort_perm role.permissions Sql.permissionLe
  constructor
  · intro hactions
    -- A permission of the role is told by its action, so that the permissions are where they were.
    have hsame : role.permissions.mergeSort Sql.permissionLe = role.permissions := by
      have hlength := hperm.length_eq
      apply List.ext_getElem hlength
      intro n hn hm
      apply List.inj_on_of_nodup_map htidy.distinct (hperm.mem_iff.mp (List.getElem_mem hn))
        (List.getElem_mem hm)
      have hat := List.getElem_of_eq hactions (by simpa [actions, sorted] using hn)
      simpa [actions, sorted] using hat
    have hsorted := List.pairwise_mergeSort Sql.permissionLe_trans Sql.permissionLe_total
      role.permissions
    rw [hsame] at hsorted
    apply (hsorted.and (List.pairwise_map.mp htidy.ids_distinct)).imp
    rintro a b ⟨hle, hne⟩
    simp only [Sql.permissionLe, Bool.or_eq_true, Bool.and_eq_true, decide_eq_true_eq] at hle
    rcases hle with hearlier | ⟨hmoment, hid⟩
    · exact Or.inl hearlier
    · exact Or.inr ⟨hmoment, Nat.lt_of_le_of_ne hid fun he => hne (Uuid.value_injective he)⟩
  · intro hordered
    rw [actions, sorted, Sql.mergeSort_of_precedes hordered, actions]

end Role

theorem Role.sorted_actions_reverse {role : Role} (htidy : role.Tidy)
    (h : role.permissions.reverse.Pairwise Permission.Precedes) :
    role.sorted.actions = role.actions.reverse := by
  have hsorted : role.permissions.reverse = role.permissions.mergeSort Sql.permissionLe :=
    Sql.eq_mergeSort_of_perm (List.reverse_perm _)
      (h.imp fun hab => (Sql.permissionLe_of_precedes hab).1) htidy.ids_distinct
  rw [actions, sorted, ← hsorted, List.map_reverse, actions]

/-- Permissions that were made at one moment stand in their order just if their ids ascend. -/
theorem Permission.series_precedes_iff {role : Uuid} {clock : Clock} {supply : Supply}
    {actions : List Text} (hstill : ∀ n, clock.reading n = clock.reading 0) :
    (series role clock supply actions).Pairwise Precedes ↔
      Ascending (supply.drawnUntil (supply.skip actions.length)) := by
  have hsteady : clock.Steady := fun m n _ =>
    Int.le_of_eq (congrArg Instant.micros ((hstill m).trans (hstill n).symm))
  refine ⟨fun h => ?_, series_precedes hsteady⟩
  rw [← @series_ids role clock, Ascending, List.pairwise_map]
  apply h.imp_of_mem
  intro a b ha hb hab
  obtain ⟨m, hm⟩ := createdAt_of_mem_series ha
  obtain ⟨n, hn⟩ := createdAt_of_mem_series hb
  rw [Precedes, hm, hn, hstill m, hstill n] at hab
  rcases hab with hearlier | ⟨_, hid⟩
  · exact absurd hearlier (Int.lt_irrefl _)
  · exact hid

end Rbac

namespace Rbac.Sql

def Tables.ids (tables : Tables) : List Uuid :=
  tables.roles.map (·.id) ++
    tables.permissions.flatMap fun permission => [permission.id, permission.role]

/-- What tables that are to take a role have to leave free: its name in its scope, and its
identifiers. -/
structure Tables.Room (tables : Tables) (role : Role) : Prop where
  name : tables.matching (.findRoleName role.name role.scope none) = []
  ids : ∀ id ∈ role.id :: role.permissions.map (·.id), id ∉ tables.ids

namespace Tables.Room

variable {tables : Tables} {role : Role}

theorem role_new (h : tables.Room role) {row : RoleRow} (hrow : row ∈ tables.roles) :
    row.id ≠ role.id := by
  intro he
  exact h.ids role.id List.mem_cons_self
    (he ▸ List.mem_append_left _ (List.mem_map_of_mem hrow))

theorem apart (h : tables.Room role) :
    ∀ row ∈ tables.roles, Schema.roles.clash row.cells (RoleRow.ofRole role).cells = false := by
  intro row hrow
  rw [Bool.eq_false_iff, ne_eq, Schema.roles_clash]
  rintro (hid | ⟨hname, hscopeId, hscopeType⟩)
  · exact h.role_new hrow hid
  · have hfree := List.filter_eq_nil_iff.mp (List.map_eq_nil_iff.mp h.name) row hrow
    exact hfree (by simpa using ⟨hname, hscopeId, hscopeType⟩)

theorem permissions_new (h : tables.Room role) :
    ∀ other ∈ tables.permissions, other.role ≠ role.id ∧
      ∀ permission ∈ role.permissions, other.id ≠ permission.id := by
  intro other ho
  have hknown : other.id ∈ tables.ids ∧ other.role ∈ tables.ids := by
    constructor <;>
      exact List.mem_append_right _ (List.mem_flatMap.mpr ⟨other, ho, by simp⟩)
  refine ⟨fun he => h.ids role.id List.mem_cons_self (he ▸ hknown.2), ?_⟩
  intro permission hp he
  exact h.ids permission.id (List.mem_cons_of_mem _ (List.mem_map_of_mem hp)) (he ▸ hknown.1)

theorem found (h : tables.Room role) (htidy : role.Tidy) (engine : Engine) (supply : Supply) :
    (Repository.findRole role.id).perform engine (tables.adding role) supply =
      (.ok (some role.sorted), tables.adding role, supply) := by
  have hmatching : (tables.roles ++ [RoleRow.ofRole role]).filter (fun row => row.id = role.id) =
      [RoleRow.ofRole role] := by
    have hothers : tables.roles.filter (fun row => row.id = role.id) = [] :=
      List.filter_eq_nil_iff.mpr fun row hrow => by simpa using h.role_new hrow
    rw [List.filter_append, hothers]
    simp [RoleRow.ofRole]
  have hselected : engine.select (tables.adding role) (.selectRole role.id) =
      [RoleRow.ofRole role] :=
    eq_of_perm_short ((engine.select_perm rfl _).trans (.of_eq hmatching)) (Nat.le_refl 1)
  have hrows : Statement.fetched (.selectRole role.id)
      (engine.select (tables.adding role) (.selectRole role.id)) = [RoleRow.ofRole role] := by
    rw [hselected]
    rfl
  have hstored : ((tables.adding role).permissions.filter
      fun permission => permission.role = role.id).Perm role.permissions := by
    have hothers : tables.permissions.filter (fun permission => permission.role = role.id) = [] :=
      List.filter_eq_nil_iff.mpr fun other ho => by simpa using (h.permissions_new other ho).1
    have hown : role.permissions.filter (fun permission => permission.role = role.id) =
        role.permissions := List.filter_eq_self.mpr fun own hp => by simpa using htidy.owned own hp
    rw [adding, List.filter_append, hothers, hown, List.nil_append]
  rw [perform_firstRole engine _ supply role.id hrows, firstRole]
  change ((RoleRow.ofRole role.sorted).toRole (Repository.ownedBy
    (engine.select (tables.adding role) (.selectPermissions [role.id])) role.id) |>.map some, _,
    _) = _
  rw [ownedBy_sorted engine List.mem_cons_self hstored htidy.ids_distinct]
  exact congrArg (·, tables.adding role, supply) (congrArg (Except.map some)
    (RoleRow.toRole_ofRole role.sorted))

end Tables.Room

section Building

variable {name : Text} {description : Option Text} {scope : Scope} {clock : Clock}
  {additions : List (Text × Instant)} {tables : Tables} {supply later : Supply} {role : Role}

theorem built_role (h : (Role.build name description scope clock additions).run supply =
      (role, later))
    (hfresh : Fresh (supply.drawnUntil later) tables.ids) (hfits : RoleFits name description)
    (hshort : ∀ action ∈ additions.map (·.1), action.length ≤ Validation.permissionLimit)
    (hname : tables.matching (.findRoleName name scope none) = []) :
    Writable role ∧ tables.Room role := by
  obtain ⟨bare, hbare⟩ : ∃ bare : Role, bare =
      { id := supply.next, name, scope, createdAt := clock.reading 0, description } := ⟨_, rfl⟩
  have hrun : (bare.addAll additions).run supply.advance = (role, later) := by
    rw [hbare]
    exact h
  have hreach : supply.advance.Reaches later := by
    have := Draw.run_reaches (bare.addAll additions) supply.advance
    rwa [hrun] at this
  have hdrawn := Supply.drawnUntil_cons hreach
  have hnone : bare.permissions = [] := by rw [hbare]
  obtain ⟨htidy, new, rfl, hnew⟩ := Role.addAll_extends (Role.Tidy.of_no_permissions hnone) hrun
    (List.nodup_cons.mp (hdrawn ▸ hfresh.distinct)).2 (by simp [hnone])
  have hpermissions : (bare.extend new).permissions = new := by
    rw [Role.extend, hnone, List.nil_append]
  rw [hbare] at htidy hpermissions ⊢
  refine ⟨⟨hfits, ?_, htidy⟩, hname, ?_⟩
  · intro permission hp
    rw [hpermissions] at hp
    exact hshort _ (hnew permission hp).2
  · intro id hid
    rw [hpermissions] at hid
    apply hfresh.absent
    rw [hdrawn]
    rcases List.mem_cons.mp hid with rfl | hin
    · exact List.mem_cons_self
    · obtain ⟨permission, hp, rfl⟩ := List.mem_map.mp hin
      exact List.mem_cons_of_mem _ (hnew permission hp).1

end Building

section Service

variable {engine : Engine} {pattern : Pattern} {tables after : Tables} {supply later : Supply}
  {command : CreateRole} {clock : Clock} {view : RoleView} {events : List Event}

theorem insertRole_drawsNone (role : Role) : (Repository.insertRole role).DrawsNone := by
  have hinsert : (Session.executeUnique (.insertRole (.ofRole role))
      (.nameTaken role.name)).DrawsNone := by
    intro reply
    cases reply with
    | error raised => trivial
    | ok rows => trivial
  apply hinsert.bind
  intro _
  rw [Repository.insertPermissions]
  split
  · trivial
  · exact (Session.query_drawsNone _).bind fun _ => trivial

theorem Session.DrawsNone.perform_supply {α : Type} {s : Session α} (h : s.DrawsNone) :
    (s.perform engine tables supply).2.2 = supply := by
  induction s generalizing tables with
  | done value => rfl
  | fail failure => rfl
  | draw next ih => exact h.elim
  | send statement next ih => exact ih _ (h _)

theorem perform_nameTaken (engine : Engine) (tables : Tables) (supply : Supply) (name : Text)
    (scope : Scope) (except : Option Uuid) :
    (ofTransaction (Transaction.nameTaken name scope except)).perform engine tables supply =
      (.ok (!(tables.matching (.findRoleName name scope except)).isEmpty), tables, supply) := by
  have hquery : (Repository.nameTaken name scope except).perform engine tables supply =
      (.ok (!(engine.select tables (.findRoleName name scope except)).isEmpty), tables, supply) :=
    Session.perform_bind _ (Session.perform_query rfl)
  rw [← engine.select_isEmpty]
  exact Session.perform_bind _ hquery

/-- A role that was created with new identifiers was built with one permission for each action of
the command, and it is what the tables were given. -/
theorem created_role (hfits : RoleFits command.name command.description)
    (hshort : ∀ action ∈ command.permissions, action.length ≤ Validation.permissionLimit)
    (hcreated : (ofTransaction (UseCase.createRole command clock)).perform engine tables supply =
      (.ok (.ok (.written (.role view) events)), after, later))
    (hfresh : Fresh (supply.drawnUntil later) tables.ids) :
    ∃ role, role = (command.bare supply.next clock).extend
        (Permission.series supply.next (clock.past 2) supply.advance command.permissions) ∧
      later = supply.advance.skip command.permissions.length ∧ view = role.view ∧
      after = tables.adding role ∧ role.Tidy ∧ tables.Room role := by
  rw [UseCase.createRole,
    Session.perform_ofTransaction_bind _ (perform_nameTaken engine tables supply _ _ _)] at hcreated
  cases hname : (tables.matching (.findRoleName command.name command.scope none)).isEmpty with
  | false =>
    rw [hname] at hcreated
    cases hcreated
  | true =>
    rw [hname] at hcreated
    simp only [Bool.not_true, Bool.false_eq_true, if_false] at hcreated
    rw [Session.perform_ofTransaction_bind _ (Session.perform_ofDraw _)] at hcreated
    change (ofTransaction (UseCase.grantEach (command.bare supply.next clock) command.permissions
      (clock.past 2) >>= _)).perform engine tables supply.advance = _ at hcreated
    rw [UseCase.grantEach, Transaction.bind_assoc,
      Session.perform_ofTransaction_bind _ (Session.perform_ofDraw _)] at hcreated
    rcases hadded :
      ((command.bare supply.next clock).addEach (clock.past 2) command.permissions).run
      supply.advance with ⟨⟨failure | _, role⟩, drawn⟩
    · rw [hadded] at hcreated
      cases hcreated
    · rw [hadded] at hcreated
      obtain ⟨answer, hanswer⟩ : ∃ answer : Except Failure (Outcome Answer), answer =
          .ok (.written (.role role.view)
            [⟨clock.reading 1, .roleCreated supply.next command.name command.scope⟩]) := ⟨_, rfl⟩
      have hinserting : (Repository.insertRole role >>= fun _ => Session.done answer).perform
          engine tables drawn = (.ok (.ok (.written (.role view) events)), after, later) := by
        rw [hanswer]
        exact hcreated
      -- Writing draws nothing, so what the role was built with is all that was drawn.
      have hdraws : (Repository.insertRole role >>= fun _ => Session.done answer).DrawsNone :=
        (insertRole_drawsNone role).bind fun _ => trivial
      obtain rfl : drawn = later := by
        have hsupply : ((Repository.insertRole role >>= fun _ => Session.done answer).perform
            engine tables drawn).2.2 = drawn := hdraws.perform_supply
        rw [hinserting] at hsupply
        exact hsupply.symm
      obtain ⟨additions, hactions, hadding⟩ := Role.addAll_of_addEach hadded
      have hbuilt : (Role.build command.name command.description command.scope clock
          additions).run supply = (role, drawn) := hadding
      obtain ⟨hwritable, hroom⟩ := built_role hbuilt hfresh hfits
        (by rw [hactions]; exact hshort) (List.isEmpty_iff.mp hname)
      rw [Session.perform_bind _ (perform_insertRole hwritable hroom.apart hroom.permissions_new
        engine drawn), Session.perform, hanswer] at hinserting
      obtain ⟨hrole, hlater⟩ := Effect.created_role hadded
      obtain ⟨⟨⟩, rfl⟩ := (Prod.mk.inj hinserting).imp_right fun hrest => (Prod.mk.inj hrest).1
      exact ⟨role, hrole, hlater, rfl, rfl, hwritable.tidy, hroom⟩

theorem created_then_read {site later : Site} (other : Clock)
    (h : Site.step engine pattern ⟨.createRole command, clock, false⟩ site =
      (.ok (.written (.role view) events), later))
    (hfresh : Fresh (site.supply.drawnUntil later.supply) site.tables.ids) :
    ∃ role : Role, role = (command.bare site.supply.next clock).extend
        (Permission.series site.supply.next (clock.past 2) site.supply.advance
          command.permissions) ∧
      later.supply = site.supply.advance.skip command.permissions.length ∧ view = role.view ∧
      role.Tidy ∧ (Site.step engine pattern ⟨.getRole view.id, other, false⟩ later).1 =
        .ok (.query (.role role.sorted.view)) := by
  by_cases hvalid : Validation.breaches pattern (.createRole command) = []
  · rw [Site.step_valid hvalid] at h
    rcases hperformed : (ofTransaction ((Request.createRole command).useCase clock)).perform engine
      site.tables site.supply with ⟨failure | answer, after, drawn⟩
    · rw [hperformed] at h
      cases h
    · rw [hperformed] at h
      obtain ⟨rfl, rfl⟩ := Prod.mk.inj h
      obtain ⟨hfits, hshort⟩ := createRole_fits hvalid
      obtain ⟨role, hrole, hlater, rfl, rfl, htidy, hroom⟩ :=
        created_role hfits hshort hperformed hfresh
      refine ⟨role, hrole, hlater, rfl, htidy, ?_⟩
      have hread : Validation.breaches pattern (.getRole role.id) = [] := rfl
      have hfound : (ofTransaction (Transaction.findRole role.id)).perform engine
          (site.tables.adding role) drawn =
            (.ok (some role.sorted), site.tables.adding role, drawn) :=
        Session.perform_bind _ (hroom.found htidy engine drawn)
      have hanswered : (ofTransaction ((Request.getRole role.id).useCase other)).perform engine
          (site.tables.adding role) drawn =
          (.ok (.ok (.query (.role role.sorted.view))), site.tables.adding role, drawn) :=
        Session.perform_ofTransaction_bind _ hfound
      change (Site.step engine pattern ⟨.getRole role.id, other, false⟩ _).1 = _
      rw [Site.step_valid hread]
      simp only [hanswered]
  · rw [Site.step_invalid hvalid] at h
    cases h

end Service

/-- Whether a role that is written comes back with its actions in the order of its own: it comes
back just as it was, but with its permissions sorted. -/
structure ReadBack (engine : Engine) (tables after : Tables) (role stored : Role)
    (supply : Supply) : Prop where
  written : (Repository.insertRole role).perform engine tables supply = (.ok (), after, supply)
  found : (Repository.findRole role.id).perform engine after supply =
    (.ok (some stored), after, supply)
  sorted : stored = role.sorted
  kept_iff : stored.actions = role.actions ↔ role.permissions.Pairwise Permission.Precedes

/-- The order of actions survives storage just if each permission sorts after all that were added
before it. A role that is built with new identifiers, and written where its name is free, is read
back with its permissions sorted by their time and then by their id. So what a created role is shown
as is shown again just if the moments and identifiers of its permissions came in that order, and
while the clock stands still just if the identifiers ascend. -/
theorem order_kept_iff_sorted (engine : Engine) (site : Site) :
    (∀ name description scope clock additions role later,
      (Role.build name description scope clock additions).run site.supply = (role, later) →
      Fresh (site.supply.drawnUntil later) site.tables.ids → RoleFits name description →
      (∀ action ∈ additions.map (·.1), action.length ≤ Validation.permissionLimit) →
      site.tables.matching (.findRoleName name scope none) = [] →
      ∃ after stored, ReadBack engine site.tables after role stored later) ∧
    ∀ pattern command clock view events later other,
      Site.step engine pattern ⟨.createRole command, clock, false⟩ site =
        (.ok (.written (.role view) events), later) →
      Fresh (site.supply.drawnUntil later.supply) site.tables.ids →
      ∃ found : RoleView, (Site.step engine pattern ⟨.getRole view.id, other, false⟩ later).1 =
          .ok (.query (.role found)) ∧
        found = { view with permissions := found.permissions } ∧
        found.permissions.Perm view.permissions ∧
        (found = view ↔ (Permission.series view.id (clock.past 2) site.supply.advance
          command.permissions).Pairwise Permission.Precedes) ∧
        ((∀ n, clock.reading n = clock.reading 0) →
          (found = view ↔ Ascending (site.supply.advance.drawnUntil later.supply))) := by
  constructor
  · intro name description scope clock additions role later hbuilt hfresh hfits hshort hname
    obtain ⟨hwritable, hroom⟩ := built_role hbuilt hfresh hfits hshort hname
    exact ⟨_, _, perform_insertRole hwritable hroom.apart hroom.permissions_new engine later,
      hroom.found hwritable.tidy engine later, rfl, Role.sorted_actions_iff hwritable.tidy⟩
  · intro pattern command clock view events later other hcreated hfresh
    obtain ⟨role, hrole, hlater, rfl, htidy, hread⟩ := created_then_read other hcreated hfresh
    have hview : role.sorted.view = role.view ↔ role.sorted.actions = role.actions := by
      constructor
      · exact congrArg RoleView.permissions
      · intro hactions
        rw [Role.view, hactions]
        rfl
    have hpermissions : role.permissions = Permission.series role.id (clock.past 2)
        site.supply.advance command.permissions := by
      rw [hrole]
      rfl
    have hkept : role.sorted.view = role.view ↔ (Permission.series role.id (clock.past 2)
        site.supply.advance command.permissions).Pairwise Permission.Precedes := by
      rw [hview, Role.sorted_actions_iff htidy, hpermissions]
    refine ⟨role.sorted.view, hread, rfl, (List.mergeSort_perm _ _).map _, hkept, ?_⟩
    intro hstill
    have hpast : ∀ n, (clock.past 2).reading n = (clock.past 2).reading 0 := fun n =>
      (hstill _).trans (hstill _).symm
    rw [hkept, Permission.series_precedes_iff hpast, hlater]

def readersWanted : CreateRole where
  name := "reader"
  scope := ⟨.organization, Uuid.ofNat 7⟩
  permissions := ["doc:read", "doc:list"]

/-- Ascending identifiers keep the order, whatever is refused on the way. -/
theorem readers_order_kept :
    let site := Site.blank (.after 100)
    let built := (Role.build "reader" none readersWanted.scope .epoch
      [("doc:read", .epoch), ("doc:read", .epoch), ("doc:list", .epoch)]).run site.supply
    let created := Site.step lastFirst (.star false (.one .dot))
      ⟨.createRole readersWanted, .epoch, false⟩ site
    (∃ after stored, ReadBack lastFirst site.tables after built.1 stored built.2 ∧
      stored.actions = ["doc:read", "doc:list"]) ∧
    ∃ view events, created.1 = .ok (.written (.role view) events) ∧
      (Site.step lastFirst (.star false (.one .dot)) ⟨.getRole view.id, .epoch, false⟩
        created.2).1 =
        .ok (.query (.role view)) := by
  intro site built created
  obtain ⟨hrepository, hservice⟩ := order_kept_iff_sorted lastFirst site
  have hfresh : Fresh (site.supply.drawnUntil built.2) site.tables.ids := by decide +kernel
  obtain ⟨after, stored, hread⟩ := hrepository _ _ _ _ _ built.1 built.2 rfl hfresh
    ⟨by decide +kernel, by simp⟩ (by decide +kernel) rfl
  have hordered : built.1.permissions.Pairwise Permission.Precedes := by
    unfold Permission.Precedes
    decide +kernel
  have hactions : built.1.actions = ["doc:read", "doc:list"] := by decide +kernel
  have hview : created.1 = .ok (.written (.role built.1.view)
      [⟨.epoch, .roleCreated (Uuid.ofNat 101) "reader" readersWanted.scope⟩]) := by decide +kernel
  have hstep :
      Site.step lastFirst (.star false (.one .dot)) ⟨.createRole readersWanted, .epoch, false⟩
      site = created := rfl
  have hdrawn : Fresh (site.supply.drawnUntil created.2.supply) site.tables.ids := by decide +kernel
  have hascending : Ascending (site.supply.advance.drawnUntil created.2.supply) := by
    decide +kernel
  clear_value created
  obtain ⟨found, hfound, _, _, _, hsame⟩ := hservice (.star false (.one .dot)) readersWanted .epoch
    built.1.view _ created.2 .epoch (hstep.trans (Prod.ext hview rfl)) hdrawn
  rw [(hsame fun _ => rfl).mpr hascending] at hfound
  exact ⟨⟨after, stored, hread, (hread.kept_iff.mpr hordered).trans hactions⟩, built.1.view, _,
    hview, hfound⟩

def descending : Supply :=
  ⟨fun n => Uuid.ofNat (100 - n), 0⟩

/-- With descending identifiers the actions of a role that was just created come back in the
opposite order. -/
theorem descending_order_lost :
    let site := Site.blank descending
    let role := (Role.build "reader" none readersWanted.scope .epoch
      [("doc:read", .epoch), ("doc:list", .epoch)]).run site.supply
    let created := Site.step lastFirst (.star false (.one .dot))
      ⟨.createRole readersWanted, .epoch, false⟩ site
    (site.supply.drawnUntil role.2).Nodup ∧
    (∃ after stored,
      (Repository.insertRole role.1).perform lastFirst site.tables role.2 =
        (.ok (), after, role.2) ∧
      (Repository.findRole role.1.id).perform lastFirst after role.2 =
        (.ok (some stored), after, role.2) ∧
      role.1.actions = ["doc:read", "doc:list"] ∧ stored.actions = ["doc:list", "doc:read"]) ∧
    ∃ view events found, created.1 = .ok (.written (.role view) events) ∧
      (Site.step lastFirst (.star false (.one .dot)) ⟨.getRole view.id, .epoch, false⟩
        created.2).1 =
        .ok (.query (.role found)) ∧
      view.permissions = ["doc:read", "doc:list"] ∧
        found.permissions = ["doc:list", "doc:read"] := by
  intro site role created
  have hfresh : Fresh (site.supply.drawnUntil role.2) site.tables.ids := by decide +kernel
  have hbuilt : (Role.build "reader" none readersWanted.scope .epoch
      [("doc:read", .epoch), ("doc:list", .epoch)]).run site.supply = (role.1, role.2) := rfl
  obtain ⟨hwritable, hroom⟩ := built_role hbuilt hfresh ⟨by decide +kernel, by simp⟩
    (by decide +kernel) rfl
  have hdescends : role.1.permissions.reverse.Pairwise Permission.Precedes := by
    unfold Permission.Precedes
    decide +kernel
  have hactions : role.1.actions = ["doc:read", "doc:list"] := by decide +kernel
  have hreversed : role.1.sorted.actions = ["doc:list", "doc:read"] := by
    rw [Role.sorted_actions_reverse hwritable.tidy hdescends, hactions]
    rfl
  have hview : created.1 = .ok (.written (.role role.1.view)
      [⟨.epoch, .roleCreated (Uuid.ofNat 100) "reader" readersWanted.scope⟩]) := by decide +kernel
  have hdrawn : Fresh (site.supply.drawnUntil created.2.supply) site.tables.ids := by decide +kernel
  have hstep :
      Site.step lastFirst (.star false (.one .dot)) ⟨.createRole readersWanted, .epoch, false⟩
      site = created := rfl
  clear_value created
  obtain ⟨written, hwritten, _, _, _, hread⟩ :=
    created_then_read .epoch (hstep.trans (Prod.ext hview rfl)) hdrawn
  have hsame : written = role.1 := hwritten.trans (by decide +kernel)
  rw [hsame] at hread
  exact ⟨hfresh.distinct, ⟨site.tables.adding role.1, role.1.sorted,
    perform_insertRole hwritable hroom.apart hroom.permissions_new lastFirst role.2,
    hroom.found hwritable.tidy lastFirst role.2, hactions, hreversed⟩,
    role.1.view, _, role.1.sorted.view, hview, hread, hactions, hreversed⟩

end Rbac.Sql
