import Rbac.Proofs.Database.Exchanges
import Rbac.Proofs.Reach
import Rbac.Proofs.Repeats

namespace Rbac

/-- Assignments in the order of their times; those of one moment keep their order. -/
structure InTimeOrder (rows ordered : List Assignment) : Prop where
  perm : ordered.Perm rows
  sorted : ordered.Pairwise fun a b => a.assignedAt.micros ≤ b.assignedAt.micros
  stable : ∀ moment : Int,
    (ordered.filter fun assignment => assignment.assignedAt.micros = moment) =
      rows.filter fun assignment => assignment.assignedAt.micros = moment

theorem assignments_inTimeOrder (rows : List Assignment) :
    InTimeOrder rows (rows.mergeSort fun a b => a.assignedAt.le b.assignedAt) := by
  have htrans : ∀ a b c : Assignment, a.assignedAt.le b.assignedAt = true →
      b.assignedAt.le c.assignedAt = true → a.assignedAt.le c.assignedAt = true :=
    fun _ _ _ => Instant.le_trans
  have htotal : ∀ a b : Assignment,
      (a.assignedAt.le b.assignedAt || b.assignedAt.le a.assignedAt) = true :=
    fun _ _ => Instant.le_total _ _
  have hperm := List.mergeSort_perm rows fun a b => a.assignedAt.le b.assignedAt
  refine ⟨hperm, (List.pairwise_mergeSort htrans htotal rows).imp Instant.le_iff.mp, ?_⟩
  -- What is of one moment is sorted as it stands, so the sort keeps it as a sublist.
  intro moment
  have hsorted : (rows.filter fun assignment => assignment.assignedAt.micros = moment).Pairwise
      fun a b => a.assignedAt.le b.assignedAt = true := by
    apply List.pairwise_of_forall_mem_list
    intro a ha b hb
    have hmoment : a.assignedAt.micros = moment := of_decide_eq_true (List.mem_filter.mp ha).2
    have hsame : b.assignedAt.micros = moment := of_decide_eq_true (List.mem_filter.mp hb).2
    exact Instant.le_iff.mpr (Int.le_of_eq (hmoment.trans hsame.symm))
  have hkept := (List.sublist_mergeSort htrans htotal hsorted List.filter_sublist).filter
    fun assignment => assignment.assignedAt.micros = moment
  rw [List.filter_filter] at hkept
  simp only [Bool.and_self] at hkept
  exact (hkept.eq_of_length (hperm.filter _).length_eq.symm).symm

theorem UseCase.nodup_actionsOf (grants : List Grant) : (actionsOf grants).Nodup :=
  nodup_eraseDups _

theorem UseCase.allows_eq (grants : List Grant) (action : Text) :
    allows grants action = decide (action ∈ actionsOf grants) := by
  rw [Bool.eq_iff_iff, decide_eq_true_iff, mem_actionsOf]

def Store.actionsOf (store : Store) (role : Uuid) : List Text :=
  (store.role? role).elim [] (·.actions)

end Rbac

namespace Rbac.Sql

theorem Connection.execute_grantsOf (user scopeId : Uuid) (answer : List Grant → Answer)
    (connection : Connection) :
    let shown (grants : List Grant) : Except Failure (Outcome Answer) :=
      .ok (.query (answer grants))
    (execute (Transaction.grantsOf user scopeId >>= fun grants => pure (shown grants))
        connection).1 =
      ((Repository.grantsOf user scopeId).run connection).1.bind shown := by
  intro shown
  have hsession : (ofTransaction (Transaction.grantsOf user scopeId >>=
        fun grants => pure (shown grants))).run connection =
      (Repository.grantsOf user scopeId >>=
        fun grants => .done (shown grants)).run connection := rfl
  rw [execute, hsession, Session.run_bind]
  rcases (Repository.grantsOf user scopeId).run connection with ⟨failure | grants, later⟩
  · rfl
  · rfl

end Rbac.Sql

namespace Rbac

/-- In all records the two questions agree: a user may do just what is listed. The list has no
repeats; it names each action of the user's assignments where it comes first, the assignments in
order of their times, those of one moment as they are stored, and those without a role passed over.
Over a database that answers both alike they agree as well, or fail alike. -/
theorem questions_agree :
    (∀ (world : World) (user scopeId : Uuid), ∃ ordered held,
      InTimeOrder (world.store.assignmentsOf user scopeId) ordered ∧
        Firsts (ordered.flatMap fun assignment => world.store.actionsOf assignment.role) held ∧
        world.Answers (.userPermissions ⟨user, scopeId⟩) (.actions held) ∧
        ∀ permission, world.Answers (.checkPermission ⟨user, scopeId, permission⟩)
          (.check ⟨decide (permission ∈ held), user, scopeId, permission⟩)) ∧
    ∀ (pattern : Pattern) (one two : Sql.Connection) (clock later : Clock) (user scopeId : Uuid),
      one.replies = two.replies →
      ∃ listed : Except Failure (List Text),
        (∀ held, listed = .ok held → held.Nodup) ∧
        (Sql.Connection.step pattern ⟨.userPermissions ⟨user, scopeId⟩, clock, true⟩ one).1 =
          listed.map (fun held => .query (.actions held)) ∧
        ∀ permission,
          (Sql.Connection.step pattern
            ⟨.checkPermission ⟨user, scopeId, permission⟩, later, true⟩ two).1 =
          listed.map fun held =>
            .query (.check ⟨decide (permission ∈ held), user, scopeId, permission⟩) := by
  refine ⟨?_, ?_⟩
  · intro world user scopeId
    have hlisted := world.answers_listing ⟨user, scopeId⟩
    refine ⟨_, _, assignments_inTimeOrder _, ?_, hlisted, ?_⟩
    · have hactions : UseCase.actionsOf (world.store.grantsOf user scopeId) = _ :=
        congrArg List.eraseDups (List.flatMap_map ..)
      rw [hactions]
      exact firsts_eraseDups _
    · intro permission
      have hchecked := world.answers_check ⟨user, scopeId, permission⟩
      rwa [World.checked, UseCase.allows_eq] at hchecked
  · intro pattern one two clock later user scopeId hreplies
    refine ⟨((Sql.Repository.grantsOf user scopeId).run one).1.map UseCase.actionsOf, ?_, ?_, ?_⟩
    · intro held hheld
      cases hloaded : ((Sql.Repository.grantsOf user scopeId).run one).1 with
      | error failure => simp [hloaded, Except.map] at hheld
      | ok grants =>
        rw [hloaded] at hheld
        cases hheld
        exact UseCase.nodup_actionsOf grants
    · refine (Sql.Connection.execute_grantsOf user scopeId
        (fun grants => .actions (UseCase.actionsOf grants)) one).trans ?_
      cases ((Sql.Repository.grantsOf user scopeId).run one).1 with
      | error failure => rfl
      | ok grants => rfl
    · intro permission
      refine (Sql.Connection.execute_grantsOf user scopeId (fun grants =>
        .check ⟨UseCase.allows grants permission, user, scopeId, permission⟩) two).trans ?_
      rw [← (Sql.Repository.grantsOf_drawsNone user scopeId).run_congr hreplies]
      simp only [UseCase.allows_eq]
      cases ((Sql.Repository.grantsOf user scopeId).run one).1 with
      | error failure => rfl
      | ok grants => rfl

def twofoldAnswers : Sql.Connection :=
  let scope : Scope := ⟨.organization, Uuid.ofNat 7⟩
  let assignment : Assignment :=
    ⟨Uuid.ofNat 3, Uuid.ofNat 1, Uuid.ofNat 4, scope, .epoch, Uuid.ofNat 5⟩
  let role : Role := ⟨Uuid.ofNat 1, "reader", scope, .epoch, none, false, none, []⟩
  let permissions : List Permission :=
    [⟨Uuid.ofNat 2, Uuid.ofNat 1, "doc:read", .epoch⟩,
      ⟨Uuid.ofNat 6, Uuid.ofNat 1, "doc:list", .epoch⟩]
  { replies := [.ok [(Sql.AssignmentRow.ofAssignment assignment).cells ++
        (Sql.RoleRow.ofRole role).cells], .ok (permissions.map Sql.permissionCells)],
    supply := .after 100 }

theorem twofold_questions_agree :
    let pattern := Pattern.star false (.one .dot)
    let other := { twofoldAnswers with supply := .after 200 }
    let user := Uuid.ofNat 4
    let scopeId := Uuid.ofNat 7
    twofoldAnswers.replies = other.replies ∧
      ∃ listed : Except Failure (List Text),
        (∀ held, listed = .ok held → held.Nodup) ∧
        (Sql.Connection.step pattern ⟨.userPermissions ⟨user, scopeId⟩, .epoch, true⟩
          twofoldAnswers).1 = listed.map (fun held => .query (.actions held)) ∧
        ∀ permission,
          (Sql.Connection.step pattern
            ⟨.checkPermission ⟨user, scopeId, permission⟩, .epoch, true⟩ other).1 =
          listed.map fun held =>
            .query (.check ⟨decide (permission ∈ held), user, scopeId, permission⟩) := by
  intro pattern other user scopeId
  have hreplies : twofoldAnswers.replies = other.replies := rfl
  exact ⟨hreplies,
    questions_agree.2 pattern twofoldAnswers other .epoch .epoch user scopeId hreplies⟩

end Rbac
