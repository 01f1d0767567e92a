import Rbac.Proofs.Atomicity
import Rbac.Proofs.Integrity

namespace Rbac

/-- What events tell of a role. -/
structure RoleEntry where
  id : Uuid
  name : Text
  scope : Scope
deriving DecidableEq

/-- What events tell of an assignment. -/
structure Holding where
  id : Uuid
  role : Uuid
  user : Uuid
  scope : Scope
  assignedBy : Uuid
deriving DecidableEq

structure Replica where
  roles : List RoleEntry := []
  assignments : List Holding := []
deriving DecidableEq

def Role.entry (role : Role) : RoleEntry :=
  ⟨role.id, role.name, role.scope⟩

def Assignment.holding (assignment : Assignment) : Holding :=
  ⟨assignment.id, assignment.role, assignment.user, assignment.scope, assignment.assignedBy⟩

/-- The records restricted to what events tell, in their order. -/
def Store.replica (store : Store) : Replica :=
  ⟨store.roles.rows.map (·.entry), store.assignments.rows.map (·.holding)⟩

namespace Replica

def apply (replica : Replica) (event : Event) : Replica :=
  match event.change with
  | .roleCreated id name scope => { replica with roles := replica.roles ++ [⟨id, name, scope⟩] }
  | .roleUpdated id name =>
    { replica with
      roles := replica.roles.map fun role => if role.id = id then { role with name } else role }
  | .roleDeleted id => { replica with roles := replica.roles.filter fun role => role.id ≠ id }
  | .assignmentCreated id role user scope assignedBy =>
    { replica with assignments := replica.assignments ++ [⟨id, role, user, scope, assignedBy⟩] }
  | .assignmentRevoked id .. =>
    { replica with assignments := replica.assignments.filter fun held => held.id ≠ id }

/-- The replica that a log of events builds from nothing. -/
def replay (log : List Event) : Replica :=
  log.foldl apply {}

theorem replay_append (log : List Event) (event : Event) :
    replay (log ++ [event]) = (replay log).apply event := by
  simp [replay]

end Replica

def Change.named : Change → List Uuid
  | .roleCreated role .. | .roleUpdated role _ | .roleDeleted role => [role]
  | .assignmentCreated assignment role .. | .assignmentRevoked assignment role .. =>
    [assignment, role]

def seen (log : List Event) : List Uuid :=
  log.flatMap (·.change.named)

/-- Whether a change fits the replica at which it arrives: what it creates has an id never seen, and
all else that it names is live, in the scope and with the holder that it tells. -/
def Fits (replica : Replica) (before : List Uuid) : Change → Prop
  | .roleCreated role _ _ => role ∉ before
  | .roleUpdated role _ | .roleDeleted role => ∃ live ∈ replica.roles, live.id = role
  | .assignmentCreated assignment role _ scope _ =>
    assignment ∉ before ∧ ∃ live ∈ replica.roles, live.id = role ∧ live.scope = scope
  | .assignmentRevoked assignment role user scope =>
    (∃ held ∈ replica.assignments,
      held.id = assignment ∧ held.role = role ∧ held.user = user ∧ held.scope = scope) ∧
    ∃ live ∈ replica.roles, live.id = role ∧ live.scope = scope

/-- Every event of a log fits the replica that the events before it have built. -/
def Coherent (log : List Event) : Prop :=
  ∀ earlier event later, log = earlier ++ event :: later →
    Fits (Replica.replay earlier) (seen earlier) event.change

theorem Coherent.append {log : List Event} {event : Event} (h : Coherent log)
    (hfits : Fits (Replica.replay log) (seen log) event.change) : Coherent (log ++ [event]) := by
  intro earlier other later he
  rcases List.eq_nil_or_concat later with rfl | ⟨front, last, rfl⟩
  · obtain ⟨rfl, hsame⟩ := List.append_inj' he rfl
    simp only [List.cons.injEq, and_true] at hsame
    rw [← hsame]
    exact hfits
  · have he' : log ++ [event] = (earlier ++ other :: front) ++ [last] := by simp [he]
    exact h earlier other front (List.append_inj' he' rfl).1

theorem Store.role_live {store : Store} {id : Uuid} {role : Role} (h : store.role? id = some role) :
    ∃ live ∈ store.replica.roles, live.id = id ∧ live.scope = role.scope := by
  obtain ⟨hrole, hid⟩ := Table.find_iff.mp h
  exact ⟨role.entry, List.mem_map.mpr ⟨role, hrole, rfl⟩, hid, rfl⟩

theorem Store.replica_put_new {store : Store} {role : Role} (clock : Clock)
    (h : role.id ∉ store.ids) :
    (store.putRole role).replica =
      store.replica.apply ⟨clock.reading 1, .roleCreated role.id role.name role.scope⟩ := by
  have hnew : ∀ other ∈ store.roles.rows, other.id ≠ role.id := by
    intro other ho he
    exact h (he ▸ role_id_mem ho)
  simp only [replica, Replica.apply, putRole, Table.rows_put_of_fresh hnew, List.map_append]
  rfl

theorem Store.replica_put_old {store : Store} {old role : Role} (clock : Clock)
    (hfound : store.role? role.id = some old) (hscope : role.scope = old.scope) :
    (store.putRole role).replica =
      store.replica.apply ⟨clock.reading 1, .roleUpdated role.id role.name⟩ := by
  obtain ⟨hold, hid⟩ := Table.find_iff.mp hfound
  simp only [replica, Replica.apply, putRole, Table.rows_put_of_present hfound, List.map_map]
  congr 1
  apply List.map_congr_left
  intro other ho
  by_cases he : other.id = role.id
  · have hsame : other = old := Table.key_inj ho hold (he.trans hid.symm)
    rw [hsame]
    simp [Role.entry, hid, hscope]
  · simp [Role.entry, he]

theorem Store.replica_eraseRole (store : Store) (id : Uuid) (clock : Clock) :
    (store.eraseRole id).replica = store.replica.apply ⟨clock.reading 0, .roleDeleted id⟩ := by
  simp only [replica, Replica.apply, eraseRole, Table.erase, Rows.erase, List.filter_map]
  rfl

theorem Store.replica_putAssignment {store : Store} {assignment : Assignment} (clock : Clock)
    (h : assignment.id ∉ store.ids) :
    (store.putAssignment assignment).replica =
      store.replica.apply
        ⟨clock.reading 1, .assignmentCreated assignment.id assignment.role assignment.user
        assignment.scope assignment.assignedBy⟩ := by
  have hnew : ∀ other ∈ store.assignments.rows, other.id ≠ assignment.id := by
    intro other ho he
    exact h (he ▸ assignment_id_mem ho)
  simp only [replica, Replica.apply, putAssignment, Table.rows_put_of_fresh hnew, List.map_append]
  rfl

theorem Store.replica_eraseAssignment (store : Store) (assignment : Assignment) (clock : Clock) :
    (store.eraseAssignment assignment.id).replica =
      store.replica.apply (assignment.revoke (clock.reading 0)) := by
  simp only [replica, Replica.apply, Assignment.revoke, eraseAssignment, Table.erase, Rows.erase,
    List.filter_map]
  rfl

/-- The events of a use case that succeeds take the replica of the records before to the replica of
the records after, and they fit it. -/
theorem Effect.tells {clock : Clock} {store after : Store} {supply later : Supply}
    {request : Request} {outcome : Outcome Answer} {before : List Uuid}
    (h : Effect clock store supply request (.ok outcome) after later) (hinv : Integrity store)
    (hstored : ∀ id ∈ supply.drawnUntil later, id ∉ store.ids)
    (hunseen : ∀ id ∈ supply.drawnUntil later, id ∉ before) :
    (World.told (.ok outcome) = [] ∧ after = store) ∨
      ∃ event, World.told (.ok outcome) = [event] ∧ after.replica = store.replica.apply event ∧
        Fits store.replica before event.change ∧
        ∀ id ∈ event.change.named, id ∈ store.ids ∨ id ∈ supply.drawnUntil later := by
  cases h with
  | answered => exact Or.inl ⟨rfl, rfl⟩
  | @created command _ _ _ hadd =>
    obtain ⟨rfl, rfl⟩ := created_role hadd
    have hnew := Supply.next_mem_drawnUntil
      (supply.advance.reaches_skip command.permissions.length)
    refine Or.inr ⟨_, rfl, Store.replica_put_new clock (hstored _ hnew), hunseen _ hnew, ?_⟩
    intro id hid
    exact Or.inr (List.mem_singleton.mp hid ▸ hnew)
  | @updated command old _ _ _ hfound _ hs hsync =>
    obtain ⟨new, rfl, _⟩ := synced_role hs hsync
    obtain ⟨hold, hid⟩ := Table.find_iff.mp hfound
    have hknown : old.id ∈ store.ids := Store.role_id_mem hold
    rw [← hid] at hfound
    obtain ⟨live, hlive, hsame, _⟩ := Store.role_live hfound
    refine Or.inr ⟨_, rfl, Store.replica_put_old clock hfound rfl, ⟨live, hlive, hsame⟩, ?_⟩
    intro id hid
    exact Or.inl (List.mem_singleton.mp hid ▸ hknown)
  | @deleted role hfound _ _ =>
    obtain ⟨hrole, _⟩ := Table.find_iff.mp hfound
    obtain ⟨live, hlive, hsame, _⟩ := Store.role_live hfound
    refine Or.inr ⟨_, rfl, Store.replica_eraseRole store role.id clock, ⟨live, hlive, hsame⟩, ?_⟩
    intro id hid
    exact Or.inl (List.mem_singleton.mp hid ▸ Store.role_id_mem hrole)
  | @assigned command role hfound hscope _ =>
    have hnew := Supply.next_mem_drawnUntil (.refl supply.advance)
    obtain ⟨hrole, hid⟩ := Table.find_iff.mp hfound
    obtain ⟨live, hlive, hsame, hin⟩ := Store.role_live hfound
    refine Or.inr ⟨_, rfl, Store.replica_putAssignment clock (hstored _ hnew),
      ⟨hunseen _ hnew, live, hlive, hsame, hin.trans hscope⟩, ?_⟩
    intro id hmem
    rcases List.mem_cons.mp hmem with rfl | hmem
    · exact Or.inr hnew
    · rw [List.mem_singleton.mp hmem, ← hid]
      exact Or.inl (Store.role_id_mem hrole)
  | @revoked command assignment hfound =>
    have hstored := List.mem_of_find?_eq_some hfound
    obtain ⟨role, hrole, hid, hin⟩ := hinv.in_scope assignment hstored
    refine Or.inr ⟨_, rfl, Store.replica_eraseAssignment store assignment clock,
      ⟨⟨assignment.holding, List.mem_map.mpr ⟨assignment, hstored, rfl⟩, rfl, rfl, rfl, rfl⟩,
        role.entry, List.mem_map.mpr ⟨role, hrole, rfl⟩, hid, hin⟩, ?_⟩
    intro id hmem
    rcases List.mem_cons.mp hmem with rfl | hmem
    · exact Or.inl (Store.assignment_id_mem hstored)
    · rw [List.mem_singleton.mp hmem, ← hid]
      exact Or.inl (Store.role_id_mem hrole)

/-- What holds between the log and the records at each point of a run. -/
structure Followed (start world : World) : Prop where
  replica : Replica.replay world.published = world.store.replica
  coherent : Coherent world.published
  seen_drawn : ∀ id ∈ seen world.published, id ∈ start.supply.drawnUntil world.supply
  integrity : Integrity world.store

namespace Followed

variable {start world next : World}

theorem silent (h : Followed start world) (hreached : World.Reached start world)
    (hreach : world.supply.Reaches next.supply) (hstore : next.store = world.store)
    (hpublished : next.published = world.published) : Followed start next := by
  refine ⟨?_, ?_, ?_, ?_⟩
  · rw [hpublished, hstore]
    exact h.replica
  · rw [hpublished]
    exact h.coherent
  · intro id hid
    rw [hpublished] at hid
    exact Supply.drawnUntil_first hreached.supply hreach id (h.seen_drawn id hid)
  · rw [hstore]
    exact h.integrity

theorem told (h : Followed start world) (hreached : World.Reached start world)
    (hreach : world.supply.Reaches next.supply) {event : Event}
    (hpublished : next.published = world.published ++ [event])
    (happly : next.store.replica = world.store.replica.apply event)
    (hfits : Fits world.store.replica (seen world.published) event.change)
    (hnamed : ∀ id ∈ event.change.named, id ∈ start.supply.drawnUntil next.supply)
    (hintegrity : Integrity next.store) : Followed start next := by
  refine ⟨?_, ?_, ?_, hintegrity⟩
  · rw [hpublished, Replica.replay_append, h.replica, happly]
  · rw [hpublished]
    exact h.coherent.append (h.replica ▸ hfits)
  · intro id hid
    rw [hpublished, seen, List.flatMap_append, List.mem_append, List.flatMap_singleton] at hid
    rcases hid with hold | hnew
    · exact Supply.drawnUntil_first hreached.supply hreach id (h.seen_drawn id hold)
    · exact hnamed id hnew

theorem step {pattern : Pattern} {request : Request} {clock : Clock}
    (hstart : start.store.ids = []) (h : Followed start world)
    (hreached : World.Reached start world)
    (hfresh : Fresh (world.supply.drawnUntil
        (World.step pattern ⟨request, clock, false⟩ world).2.supply)
      (world.store.ids ++ start.supply.drawnUntil world.supply)) :
    Followed start (World.step pattern ⟨request, clock, false⟩ world).2 := by
  have hintegrity := h.integrity.step hfresh.absent_left
  have hreach := World.step_reaches pattern ⟨request, clock, false⟩ world
  rcases World.step_cases pattern request clock false world with
    ⟨_, errors, hstep⟩ | ⟨result, after, later, hvalid, hstep, heffect⟩
  · rw [hstep]
    exact h
  rw [hstep] at hfresh hintegrity hreach ⊢
  cases result with
  | error failure =>
    obtain ⟨_, rfl⟩ := heffect.of_error (hvalid rfl)
    exact h.silent hreached hreach (by simp) (by simp [World.told])
  | ok outcome =>
    simp only [World.tell_supply, World.settled_supply] at hfresh hreach
    have hunseen : ∀ id ∈ world.supply.drawnUntil later, id ∉ seen world.published :=
      fun id hid hin => hfresh.absent_right id hid (h.seen_drawn id hin)
    rcases heffect.tells h.integrity hfresh.absent_left hunseen with
      ⟨htold, rfl⟩ | ⟨event, htold, happly, hfits, hnamed⟩
    · exact h.silent hreached (by simpa using hreach) (by simp) (by simp [htold])
    · refine h.told hreached (by simpa using hreach) (by simp [htold]) (by simpa using happly)
        hfits ?_ hintegrity
      intro id hid
      simp only [World.tell_supply, World.settled_supply]
      rcases hnamed id hid with hstored | hdrawn
      · rcases hreached.ids id hstored with hthere | hthen
        · rw [hstart] at hthere
          cases hthere
        · exact Supply.drawnUntil_first hreached.supply hreach id hthen
      · exact Supply.drawnUntil_second hreached.supply hreach id hdrawn

end Followed

/-- After a run of dispatched requests from nothing, replaying what was published gives exactly the
roles and the assignments that are stored, and each event fits the replica it arrives at: what is
created has an id never seen before, and what is changed or taken away is live. -/
theorem replay_published (pattern : Pattern) (supply : Supply) (steps : List World.Step)
    (hdispatched : ∀ step ∈ steps, step.direct = false)
    (hdistinct : (World.drawn pattern steps (.blank supply)).Nodup) :
    let world := World.after pattern steps (.blank supply)
    Replica.replay world.published = world.store.replica ∧ Coherent world.published := by
  intro world
  have hfirst : Followed (.blank supply) (.blank supply) := by
    refine ⟨rfl, ?_, ?_, .empty⟩
    · intro earlier event later he
      cases earlier with
      | nil => cases he
      | cons first rest => cases he
    · intro _ hin
      cases hin
  have hfollowed : Followed (.blank supply) world := by
    apply World.run_induction (P := fun _ world => Followed (.blank supply) world)
      (World.fresh_blank hdistinct) hfirst
    intro entries step world hin hworld hreached hnew
    obtain ⟨request, clock, direct⟩ := step
    have hdirect : direct = false := hdispatched _ hin
    subst hdirect
    exact hworld.step rfl hreached hnew
  exact ⟨hfollowed.replica, hfollowed.coherent⟩

theorem replay_published_trial :
    let pattern := Pattern.star false (.one .dot)
    (∀ step ∈ World.trial, step.direct = false) ∧
      (World.drawn pattern World.trial (.blank (.after 100))).Nodup ∧
      let world := World.after pattern World.trial (.blank (.after 100))
      Replica.replay world.published = world.store.replica ∧ Coherent world.published := by
  intro pattern
  have hdispatched : ∀ step ∈ World.trial, step.direct = false := by decide +kernel
  have hdistinct : (World.drawn pattern World.trial (.blank (.after 100))).Nodup := by
    decide +kernel
  exact ⟨hdispatched, hdistinct,
    replay_published pattern (.after 100) World.trial hdispatched hdistinct⟩

end Rbac
