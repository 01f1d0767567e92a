import Rbac.Http.App
import Rbac.Proofs.Dispatching

namespace Rbac

instance {α : Type} (result : Except Failure α) (failure : Failure) :
    Decidable (result = .error failure) :=
  match result with
  | .ok _ => isFalse nofun
  | .error raised => decidable_of_iff (raised = failure) (by simp)

theorem Context.actorId?_str (correlation : Option String) (text : Text) :
    (Context.mk correlation (.str text)).actorId? = .ok (Uuid.ofText? text) := by
  cases hempty : text.isEmpty with
  | true =>
    have htext : text = ⟨[]⟩ := congrArg Text.mk (List.isEmpty_iff.mp hempty)
    have hread : Uuid.ofText? ⟨[]⟩ = none := by decide +kernel
    rw [htext, hread]
    rfl
  | false => simp [actorId?, Json.isTruthy, hempty]

/-- Whether what comes of a post is dealt with where it was made. An address that cannot be
requested is no failed delivery, and one without a scheme is found out by the answer. -/
def Delivery.Handled (url : String) : Delivery → Prop
  | .status .. => Url.namesScheme url = true
  | .failed _ => True
  | .invalidUrl _ => False

def Event.actor? (actor : Option Uuid) (event : Event) : Option Uuid :=
  actor.or <| match event.change with
    | .assignmentCreated _ _ _ _ assignedBy => some assignedBy
    | _ => none

/-- Whether a publisher takes the events without raising a failure. An audit service does if its
address and the actor can be read and all its posts are handled, each answered with the next reply,
and as created when there is none left. -/
def Publisher.Carries (context : Context) (events : List Event) : Publisher → Prop
  | .log => True
  | .audit service => events = [] ∨ ∃ url actor,
      service.url = .ok url ∧ context.actorId? = .ok actor ∧
        ∀ k < events.countP fun event => (event.actor? actor).isSome,
          (service.replies.getD k .created).Handled url.text

/-- What a publisher does with one event. -/
inductive Attempt where
  | logged (event : Event)
  /-- Nobody is named as acting, so nothing is posted. -/
  | withheld (event : Event)
  | posted (event : Event) (post : Post) (reply : Delivery)

namespace Attempt

def event : Attempt → Event
  | .logged event | .withheld event | .posted event _ _ => event

def failure? : Attempt → Option Failure
  | .posted _ _ (.invalidUrl message) => some (.invalidUrl message)
  | .posted _ post (.status ..) =>
    if Url.namesScheme post.url then none else some (.badValue (Url.unknownKind post.url))
  | _ => none

/-- Whether a post is not delivered, which is logged and no more. -/
def isLost : Attempt → Bool
  | .posted _ _ (.failed _) => true
  | .posted _ post (.status code _) => Url.namesScheme post.url && !AuditService.isSuccess code
  | _ => false

def journal (attempt : Attempt) : Journal :=
  match attempt with
  | .logged event => .log (Publisher.eventLine event)
  | .withheld event => .log (AuditService.noActor event)
  | .posted event post reply =>
    let warning := AuditService.deliveryFailed event reply.complaint
    .post post ++ .ofLines (if attempt.isLost then [warning] else [])

/-- The attempts that are made: those up to the first that raises a failure. -/
def made : List Attempt → List Attempt
  | [] => []
  | attempt :: rest => if attempt.failure?.isSome then [attempt] else attempt :: made rest

def outcome (attempts : List Attempt) : Except Failure Unit :=
  match attempts.findSome? failure? with
  | some failure => .error failure
  | none => .ok ()

def journals (attempts : List Attempt) : Journal :=
  attempts.foldr (fun attempt journal => attempt.journal ++ journal) {}

end Attempt

/-- The attempts that an audit service has before it. -/
def AuditService.attempts (context : Context) (url : String) (actor : Option Uuid) :
    AuditService → List Event → List Attempt
  | _, [] => []
  | service, event :: events =>
    match event.actor? actor with
    | none => .withheld event :: service.attempts context url actor events
    | some user =>
      .posted event ⟨url, .ofEvent event user service.name context.correlation⟩
          (service.replies.headD .created) ::
        { service with replies := service.replies.tail }.attempts context url actor events

namespace Publisher

/-- The attempts that a publisher has before it, unless it cannot begin: the address or the actor
cannot be read. -/
def plan (context : Context) (events : List Event) : Publisher → Except Failure (List Attempt)
  | .log => .ok (events.map .logged)
  | .audit service =>
    if events = [] then .ok []
    else match service.url with
      | .error flaw => .error (.invalidUrl flaw.message)
      | .ok url => context.actorId?.map fun actor => service.attempts context url.text actor events

def attempted (context : Context) (events : List Event) (publisher : Publisher) : List Attempt :=
  match publisher.plan context events with
  | .error _ => []
  | .ok attempts => Attempt.made attempts

end Publisher

namespace Attempt

theorem posts_posted (event : Event) (post : Post) (reply : Delivery) :
    (posted event post reply).journal.posts = [post] := by
  simp [journal]

@[simp] theorem journals_nil : journals [] = {} := rfl

@[simp] theorem journals_cons (attempt : Attempt) (rest : List Attempt) :
    journals (attempt :: rest) = attempt.journal ++ journals rest := rfl

@[simp] theorem journals_append (before after : List Attempt) :
    journals (before ++ after) = journals before ++ journals after := by
  induction before with
  | nil => rfl
  | cons attempt rest ih => simp [ih, Journal.append_assoc]

theorem journals_logged (events : List Event) :
    journals (events.map .logged) = .ofLines (events.map Publisher.eventLine) := by
  induction events with
  | nil => rfl
  | cons event events ih =>
    simp only [List.map_cons, journals_cons, ih]
    rfl

theorem made_eq {attempts : List Attempt} (h : ∀ attempt ∈ attempts, attempt.failure? = none) :
    made attempts = attempts := by
  induction attempts with
  | nil => rfl
  | cons attempt rest ih =>
    obtain ⟨hfirst, hrest⟩ := List.forall_mem_cons.mp h
    simp [made, hfirst, ih hrest]

theorem outcome_ok_iff {attempts : List Attempt} :
    outcome attempts = .ok () ↔ ∀ attempt ∈ attempts, attempt.failure? = none := by
  rw [← List.findSome?_eq_none_iff]
  unfold outcome
  cases attempts.findSome? failure? <;> simp

theorem posted_failure? {event : Event} {post : Post} {reply : Delivery} :
    (posted event post reply).failure? = none ↔ reply.Handled post.url := by
  cases reply <;> simp [failure?, Delivery.Handled]

theorem isLost_of_failure {attempt : Attempt} {failure : Failure}
    (h : attempt.failure? = some failure) : attempt.isLost = false := by
  match attempt with
  | .logged _ | .withheld _ | .posted _ _ (.invalidUrl _) => rfl
  | .posted _ _ (.failed _) => cases h
  | .posted _ post (.status code _) =>
    cases hscheme : Url.namesScheme post.url
    · simp [isLost, hscheme]
    · simp [failure?, hscheme] at h

theorem outcome_cons {attempt : Attempt} (h : attempt.failure? = none) (rest : List Attempt) :
    outcome (attempt :: rest) = outcome rest := by
  simp [outcome, h]

end Attempt

namespace AuditService

theorem nextReply_eq (service : AuditService) :
    service.nextReply =
      (service.replies.headD .created, { service with replies := service.replies.tail }) := by
  obtain ⟨baseUrl, name, _ | ⟨reply, replies⟩⟩ := service
  · rfl
  · rfl

theorem delivered_eq (url : String) (event : Event) (entry : AuditEntry) (reply : Delivery) :
    delivered url reply =
      match (Attempt.posted event ⟨url, entry⟩ reply).failure? with
      | some failure => .error failure
      | none => .ok !(Attempt.posted event ⟨url, entry⟩ reply).isLost := by
  cases reply with
  | status code complaint =>
    cases h : Url.namesScheme url <;> simp [delivered, Attempt.failure?, Attempt.isLost, h]
  | failed complaint => rfl
  | invalidUrl complaint => rfl

/-- A service makes the attempts that it has before it, and they decide the outcome. -/
theorem deliver_attempts {context : Context} {actor : Option Uuid}
    (hactor : context.actorId? = .ok actor) (url : String) (service : AuditService)
    (events : List Event) :
    (service.deliver context url events).1 =
        Attempt.outcome (service.attempts context url actor events) ∧
      (service.deliver context url events).2.1 =
        Attempt.journals (Attempt.made (service.attempts context url actor events)) := by
  -- For every service at once: each post uses up a reply of it.
  induction events generalizing service with
  | nil => exact ⟨rfl, rfl⟩
  | cons event events ih =>
    have hwho : actorOf? context event = .ok (event.actor? actor) := by
      simp only [actorOf?, hactor]
      rfl
    simp only [deliver, hwho, attempts]
    cases event.actor? actor with
    | none =>
      obtain ⟨hresult, hjournal⟩ := ih service
      refine ⟨?_, ?_⟩
      · rw [hresult, Attempt.outcome_cons rfl]
      · simp [hjournal, Attempt.made, Attempt.failure?, Attempt.journal]
    | some user =>
      simp only [nextReply_eq]
      generalize service.replies.headD .created = reply
      generalize AuditEntry.ofEvent event user service.name context.correlation = entry
      have hdelivered := delivered_eq url event entry reply
      cases hraised : (Attempt.posted event ⟨url, entry⟩ reply).failure? with
      | some failure =>
        rw [hraised] at hdelivered
        simp [hdelivered, Attempt.outcome, Attempt.made, Attempt.journal, hraised,
          Attempt.isLost_of_failure hraised]
      | none =>
        rw [hraised] at hdelivered
        obtain ⟨hresult, hjournal⟩ := ih { service with replies := service.replies.tail }
        simp only [hdelivered]
        refine ⟨?_, ?_⟩
        · rw [hresult, Attempt.outcome_cons hraised]
        · rw [hjournal]
          cases hlost : (Attempt.posted event ⟨url, entry⟩ reply).isLost <;>
            simp [Attempt.made, hraised, Attempt.journal, hlost]

theorem deliver_unreadable_actor {context : Context} {failure : Failure}
    (hactor : context.actorId? = .error failure) (url : String) (service : AuditService)
    {events : List Event} (h : events ≠ []) :
    service.deliver context url events = (.error failure, {}, service) := by
  cases events with
  | nil => exact absurd rfl h
  | cons event events =>
    have hwho : actorOf? context event = .error failure := by
      simp only [actorOf?, hactor]
      rfl
    simp only [deliver, hwho]

/-- Every event is attempted once, in its place. -/
theorem attempts_event (context : Context) (url : String) (actor : Option Uuid)
    (service : AuditService) (events : List Event) :
    (service.attempts context url actor events).map Attempt.event = events := by
  induction events generalizing service with
  | nil => rfl
  | cons event events ih =>
    simp only [attempts]
    cases event.actor? actor with
    | none => simp [Attempt.event, ih service]
    | some user => simp [Attempt.event, ih]

theorem attempts_handled (context : Context) (url : String) (actor : Option Uuid)
    (service : AuditService) (events : List Event) :
    (∀ attempt ∈ service.attempts context url actor events, attempt.failure? = none) ↔
      ∀ k < events.countP fun event => (event.actor? actor).isSome,
        (service.replies.getD k .created).Handled url := by
  induction events generalizing service with
  | nil => simp [attempts]
  | cons event events ih =>
    simp only [attempts, List.countP_cons]
    cases event.actor? actor with
    | none =>
      rw [List.forall_mem_cons, ih]
      simp [Attempt.failure?]
    | some user =>
      rw [List.forall_mem_cons, ih]
      simp only [Option.isSome_some, if_true, Nat.forall_lt_succ_left, Attempt.posted_failure?]
      cases service.replies <;> simp

end AuditService

namespace Publisher

variable {context : Context} {events : List Event}

theorem publish_attempts (context : Context) (events : List Event) (publisher : Publisher) :
    (publisher.publish context events).1 =
        (publisher.plan context events).bind Attempt.outcome ∧
      (publisher.publish context events).2.1 =
        Attempt.journals (publisher.attempted context events) := by
  cases publisher with
  | log =>
    have hraised : ∀ attempt ∈ events.map Attempt.logged, attempt.failure? = none := by
      simp [Attempt.failure?]
    refine ⟨(Attempt.outcome_ok_iff.mpr hraised).symm, ?_⟩
    simp only [attempted, plan, Attempt.made_eq hraised]
    exact (Attempt.journals_logged events).symm
  | audit service =>
    simp only [publish, AuditService.publish, attempted, plan, List.isEmpty_iff]
    split
    · exact ⟨rfl, rfl⟩
    · rename_i hevents
      cases service.url with
      | error flaw => exact ⟨rfl, rfl⟩
      | ok url =>
        cases hactor : context.actorId? with
        | error failure =>
          simp only [AuditService.deliver_unreadable_actor hactor _ _ hevents]
          exact ⟨rfl, rfl⟩
        | ok actor => exact AuditService.deliver_attempts hactor url.text service events

theorem carries_iff {publisher : Publisher} :
    publisher.Carries context events ↔ ∃ attempts, publisher.plan context events = .ok attempts ∧
      ∀ attempt ∈ attempts, attempt.failure? = none := by
  cases publisher with
  | log => simp [Carries, plan, Attempt.failure?]
  | audit service =>
    by_cases hevents : events = []
    · simp [Carries, plan, hevents]
    · simp only [Carries, plan, hevents, false_or, if_false]
      cases service.url with
      | error flaw => simp
      | ok url =>
        cases context.actorId? with
        | error failure => simp [Except.map]
        | ok actor => simp [Except.map, AuditService.attempts_handled]

instance (context : Context) (events : List Event) (publisher : Publisher) :
    Decidable (publisher.Carries context events) :=
  match h : publisher.plan context events with
  | .error _ => isFalse (by simp [carries_iff, h])
  | .ok attempts =>
    decidable_of_iff (∀ attempt ∈ attempts, attempt.failure? = none) (by simp [carries_iff, h])

theorem publish_ok_iff {publisher : Publisher} :
    (publisher.publish context events).1 = .ok () ↔ publisher.Carries context events := by
  rw [(publish_attempts context events publisher).1, carries_iff]
  cases publisher.plan context events with
  | error failure => simp [Except.bind]
  | ok attempts => simp [Except.bind, Attempt.outcome_ok_iff]

theorem plan_event {publisher : Publisher} {attempts : List Attempt}
    (h : publisher.plan context events = .ok attempts) :
    attempts.map Attempt.event = events := by
  cases publisher with
  | log =>
    cases h
    simp [Function.comp_def, Attempt.event]
  | audit service =>
    simp only [Publisher.plan] at h
    split at h
    · rename_i hnone
      cases h
      exact hnone.symm
    · cases hurl : service.url with
      | error flaw => simp [hurl] at h
      | ok url =>
        cases hactor : context.actorId? with
        | error failure => simp [hurl, hactor, Except.map] at h
        | ok actor =>
          simp only [hurl, hactor, Except.map, Except.ok.injEq] at h
          rw [← h]
          exact service.attempts_event context url.text actor events

theorem Carries.attempted_event {publisher : Publisher} (h : publisher.Carries context events) :
    (publisher.attempted context events).map Attempt.event = events := by
  obtain ⟨attempts, hplan, hraised⟩ := carries_iff.mp h
  simp only [attempted, hplan, Attempt.made_eq hraised]
  exact plan_event hplan

theorem publishAll_append {before : List Publisher} (h : ∀ p ∈ before, p.Carries context events)
    (rest : List Publisher) :
    (publishAll context events (before ++ rest)).1 = (publishAll context events rest).1 ∧
      (publishAll context events (before ++ rest)).2.1 =
        Attempt.journals (before.flatMap (·.attempted context events)) ++
          (publishAll context events rest).2.1 ∧
      ∃ told, told.length = before.length ∧
        (publishAll context events (before ++ rest)).2.2 =
          told ++ (publishAll context events rest).2.2 := by
  induction before with
  | nil => exact ⟨rfl, rfl, [], rfl, rfl⟩
  | cons publisher before ih =>
    obtain ⟨hfirst, hbefore⟩ := List.forall_mem_cons.mp h
    obtain ⟨hresult, hjournal, told, hlength, htold⟩ := ih hbefore
    have hok := publish_ok_iff.mpr hfirst
    have hmade := (publish_attempts context events publisher).2
    -- The publisher that is left has used up replies; the others see nothing of that.
    rcases hpublish : publisher.publish context events with ⟨result, journal, publisher'⟩
    rw [hpublish] at hok hmade
    cases hok
    simp only [List.cons_append, publishAll, hpublish]
    refine ⟨hresult, ?_, publisher' :: told, by simp [hlength], by simp [htold]⟩
    rw [hjournal, List.flatMap_cons, Attempt.journals_append, Journal.append_assoc]
    exact congrArg (· ++ _) hmade

/-- One that raises a failure ends the round: those after it are left as they were. -/
theorem publishAll_stops {publisher : Publisher} (h : ¬ publisher.Carries context events)
    (later : List Publisher) :
    (∃ failure, (publishAll context events (publisher :: later)).1 = .error failure) ∧
      (publishAll context events (publisher :: later)).2.1 =
        Attempt.journals (publisher.attempted context events) ∧
      ∃ told, (publishAll context events (publisher :: later)).2.2 = told :: later := by
  have hok := mt publish_ok_iff.mp h
  have hmade := (publish_attempts context events publisher).2
  rcases hpublish : publisher.publish context events with ⟨result, journal, publisher'⟩
  rw [hpublish] at hok hmade
  simp only [publishAll, hpublish]
  cases result with
  | ok _ => exact absurd rfl hok
  | error failure => exact ⟨⟨failure, rfl⟩, hmade, publisher', rfl⟩

theorem publishAll_carried {publishers : List Publisher}
    (h : ∀ p ∈ publishers, p.Carries context events) :
    (publishAll context events publishers).1 = .ok () ∧
      (publishAll context events publishers).2.1 =
        Attempt.journals (publishers.flatMap (·.attempted context events)) := by
  obtain ⟨hresult, hjournal, -⟩ := publishAll_append h []
  rw [List.append_nil] at hresult hjournal
  exact ⟨hresult, by rw [hjournal]; exact Journal.append_empty _⟩

/-- A round ends without a failure exactly when no publisher raises one. -/
theorem publishAll_ok_iff {publishers : List Publisher} :
    (publishAll context events publishers).1 = .ok () ↔
      ∀ publisher ∈ publishers, publisher.Carries context events := by
  refine ⟨fun hok => ?_, fun h => ?_⟩
  · induction publishers with
    | nil => simp
    | cons publisher rest ih =>
      by_cases hfirst : publisher.Carries context events
      · have hbefore : ∀ p ∈ [publisher], p.Carries context events := by simpa using hfirst
        have hrest := (publishAll_append hbefore rest).1
        exact List.forall_mem_cons.mpr ⟨hfirst, ih (hrest.symm.trans hok)⟩
      · obtain ⟨failure, hfailure⟩ := (publishAll_stops hfirst rest).1
        cases hfailure.symm.trans hok
  · exact (publishAll_carried h).1

theorem publishAll_nothing (context : Context) (publishers : List Publisher) :
    publishAll context [] publishers = (.ok (), {}, publishers) := by
  induction publishers with
  | nil => rfl
  | cons publisher rest ih =>
    have hpublish : publisher.publish context [] = (.ok (), {}, publisher) := by
      cases publisher <;> rfl
    simp [publishAll, hpublish, ih]

end Publisher

namespace Http.Server

variable {ω : Type}

theorem dispatch_committed {pattern : Pattern} {execution : Execution ω} {clock : Clock}
    {request : Request} {server : Server ω} {value : Answer} {events : List Event} {records : ω}
    (hvalid : Validation.breaches pattern request = [])
    (hcommitted : execution (request.useCase clock) server.records =
      (.ok (.written value events), records)) :
    let round := Publisher.publishAll server.context events server.publishers
    let answered := (dispatcher pattern execution clock).dispatch request server
    answered.1 = round.1.map (fun _ => .written value events) ∧
      answered.2.records = records ∧ answered.2.journal = server.journal ++ round.2.1 ∧
      answered.2.publishers = round.2.2 := by
  intro round answered
  have hexecute : execute execution (request.useCase clock) server =
      (.ok (.written value events), { server with records }) := by
    simp only [execute, hcommitted]
  have hanswered : answered = (dispatcher pattern execution clock).announce
      (.written value events) { server with records } := by
    have h := Service.dispatch_valid hvalid (execute execution) (some publish) clock server
    rw [hexecute] at h
    exact h
  rw [hanswered]
  cases events with
  | nil =>
    have hround : round = (.ok (), {}, server.publishers) := Publisher.publishAll_nothing _ _
    rw [hround]
    exact ⟨rfl, rfl, (Journal.append_empty _).symm, rfl⟩
  | cons event events =>
    rcases hround : Publisher.publishAll server.context (event :: events) server.publishers
      with ⟨failure | _, journal, publishers⟩ <;>
      simp [round, Dispatcher.announce, Outcome.written, dispatcher, Service.dispatcher, publish,
        hround, Except.map]

/-- A committed write stays committed, and it is reported as such exactly when all publishers carry
its events. Then every publisher has attempted every event, in order, and what was not delivered is
only logged. The first publisher that does not carry them ends the round instead: the write is
answered with a failure, and the publishers after it are left as they were. -/
theorem committed_write_reported_iff_carried (pattern : Pattern) (execution : Execution ω)
    (clock : Clock) (request : Request) (server : Server ω) {value : Answer} {events : List Event}
    {records : ω} (hvalid : Validation.breaches pattern request = [])
    (hcommitted : execution (request.useCase clock) server.records =
      (.ok (.written value events), records)) :
    let answered := (dispatcher pattern execution clock).dispatch request server
    let Carries := Publisher.Carries server.context events
    let attempted := Publisher.attempted server.context events
    answered.2.records = records ∧
      (answered.1 = .ok (.written value events) ↔ ∀ p ∈ server.publishers, Carries p) ∧
      ((∀ p ∈ server.publishers, Carries p) →
        answered.2.journal =
            server.journal ++ Attempt.journals (server.publishers.flatMap attempted) ∧
          ∀ p ∈ server.publishers, (attempted p).map Attempt.event = events) ∧
      ∀ before broken later, server.publishers = before ++ broken :: later →
        (∀ p ∈ before, Carries p) → ¬ Carries broken →
          (∃ failure, answered.1 = .error failure) ∧
          answered.2.journal =
            server.journal ++ Attempt.journals ((before ++ [broken]).flatMap attempted) ∧
          ∃ told, told.length = before.length + 1 ∧ answered.2.publishers = told ++ later := by
  intro answered Carries attempted
  obtain ⟨hresult, hrecords, hjournal, hpublishers⟩ :
      answered.1 = _ ∧ answered.2.records = _ ∧ answered.2.journal = _ ∧
        answered.2.publishers = _ := dispatch_committed hvalid hcommitted
  refine ⟨hrecords, ?_, ?_, ?_⟩
  · rw [hresult, ← Publisher.publishAll_ok_iff]
    cases (Publisher.publishAll server.context events server.publishers).1 with
    | error failure => simp [Except.map]
    | ok _ => simp [Except.map]
  · intro hcarried
    refine ⟨?_, fun p hp => (hcarried p hp).attempted_event⟩
    rw [hjournal, (Publisher.publishAll_carried hcarried).2]
  · intro before broken later hsplit hbefore hbroken
    obtain ⟨hpassed, hmade, told, hlength, htold⟩ :=
      Publisher.publishAll_append hbefore (broken :: later)
    obtain ⟨⟨failure, hfailure⟩, hcut, last, hlast⟩ := Publisher.publishAll_stops hbroken later
    rw [← hsplit] at hpassed hmade htold
    refine ⟨⟨failure, ?_⟩, ?_, told ++ [last], by simp [hlength], ?_⟩
    · rw [hresult, hpassed, hfailure]
      rfl
    · rw [hjournal, hmade, hcut, List.flatMap_append, Attempt.journals_append]
      simp [attempted]
    · rw [hpublishers, htold, hlast]
      simp

def auditing (replies : List Delivery) : Server World where
  records := { store := .empty, supply := .after 0 }
  context := { actor := .str "000000ad-aaaa-4bbb-8ccc-0000000000ad" }
  correlations := .after 0
  publishers := [.audit { baseUrl := "http://audit.local", replies }, .log]

def readerWanted : Request :=
  .createRole ⟨"reader", ⟨.organization, Uuid.ofNat 7⟩, none, ["doc:read"]⟩

theorem refused_post_not_reported :
    let pattern := Pattern.star false (.one .dot)
    let server := auditing [.status 503 "scripted"]
    Validation.breaches pattern readerWanted = [] ∧
      ∃ value events records,
        World.execute (readerWanted.useCase .epoch) server.records =
          (.ok (.written value events), records) ∧
        ((dispatcher pattern World.execute .epoch).dispatch readerWanted server).1 =
          .ok (.written value events) := by
  intro pattern server
  have hvalid : Validation.breaches pattern readerWanted = [] := by decide +kernel
  refine ⟨hvalid, _, _, _, rfl, ?_⟩
  exact (committed_write_reported_iff_carried pattern World.execute .epoch readerWanted server
    hvalid rfl).2.1.mpr (by decide +kernel)

/-- A post to an address that cannot be requested: the committed write is answered with the
failure, and neither the second event nor the second publisher is attempted. -/
theorem unrequestable_post_reported :
    let pattern := Pattern.star false (.one .dot)
    let server := auditing [.invalidUrl "scripted"]
    let answered := (dispatcher pattern World.execute .epoch).dispatch readerWanted server
    let events : List Event := [⟨.epoch, .roleDeleted (Uuid.ofNat 5)⟩,
      ⟨.epoch, .roleDeleted (Uuid.ofNat 6)⟩]
    let round := Publisher.publishAll server.context events server.publishers
    (World.execute (readerWanted.useCase .epoch) server.records).1.isOk = true ∧
      answered.2.records.commits = 1 ∧ answered.1 = .error (.invalidUrl "scripted") ∧
      answered.2.journal.logs = [] ∧
      round.1 = .error (.invalidUrl "scripted") ∧ round.2.1.posts.length = 1 ∧
      round.2.1.logs = [] := by
  decide +kernel

end Http.Server
end Rbac
