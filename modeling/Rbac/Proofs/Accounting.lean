import Rbac.Proofs.Delivery

namespace Rbac

instance decidableEqOk {ε α : Type} [DecidableEq α] (result : Except ε α) (value : α) :
    Decidable (result = .ok value) :=
  match result with
  | .error _ => isFalse nofun
  | .ok returned => decidable_of_iff (returned = value) (by simp)

theorem Context.actorId?_text (correlation : Option String) (stored : Option Text) :
    (Context.mk correlation (.ofText? stored)).actorId? = .ok (stored.bind Uuid.ofText?) := by
  cases stored with
  | none => rfl
  | some text => rw [Json.ofText?, Option.elim_some, actorId?_str, Option.bind_some]

def Delivery.isSuccess : Delivery → Bool
  | .status code _ => AuditService.isSuccess code
  | .failed _ | .invalidUrl _ => false

namespace AuditService

/-- How the post with a number is answered. -/
def reply (service : AuditService) (number : Nat) : Delivery :=
  service.replies.getD number .created

def postsBefore (who : Option Uuid) (events : List Event) (place : Nat) : Nat :=
  (events.take place).countP fun event => (event.actor? who).isSome

/-- The post that tells of an event, if someone is named as acting. -/
def post? (service : AuditService) (url : String) (correlation : Option String)
    (who : Option Uuid) (event : Event) : Option Post :=
  (event.actor? who).map fun actor => ⟨url, .ofEvent event actor service.name correlation⟩

/-- The warning about an event whose post is answered so: that nobody is named as acting, or that
the post was not delivered. -/
def warning? (who : Option Uuid) : Event × Delivery → Option LogLine
  | (event, reply) =>
    if (event.actor? who).isNone then some (noActor event)
    else if reply.isSuccess then none
    else some (deliveryFailed event reply.complaint)

theorem warning?_withheld {who : Option Uuid} {event : Event} (h : event.actor? who = none)
    (reply : Delivery) : warning? who (event, reply) = some (noActor event) := by
  simp [warning?, h]

theorem warning?_posted {who : Option Uuid} {event : Event} {user : Uuid}
    (h : event.actor? who = some user) (reply : Delivery) :
    warning? who (event, reply) =
      if reply.isSuccess then none else some (deliveryFailed event reply.complaint) := by
  simp [warning?, h]

/-- What is left of an event: its post, and then the warning about it. -/
def left (service : AuditService) (url : String) (correlation : Option String)
    (who : Option Uuid) (answer : Event × Delivery) : List Journal.Entry :=
  (service.post? url correlation who answer.1).toList.map .post ++
    (warning? who answer).toList.map .line

end AuditService

namespace Attempt

theorem withheld_entries (service : AuditService) (url : String) (correlation : Option String)
    {who : Option Uuid} {event : Event} (h : event.actor? who = none) (reply : Delivery) :
    (withheld event).journal.entries = service.left url correlation who (event, reply) := by
  simp [journal, AuditService.left, AuditService.post?, AuditService.warning?, h, Journal.log,
    Journal.ofLines]

theorem posted_entries (service : AuditService) {url : String} (correlation : Option String)
    {who : Option Uuid} {event : Event} {user : Uuid} (h : event.actor? who = some user)
    {reply : Delivery} (hhandled : reply.Handled url) :
    (posted event ⟨url, .ofEvent event user service.name correlation⟩ reply).journal.entries =
      service.left url correlation who (event, reply) := by
  have hlost : (posted event ⟨url, .ofEvent event user service.name correlation⟩ reply).isLost =
      !reply.isSuccess := by
    cases reply with
    | status code complaint =>
      have hscheme : Url.namesScheme url = true := hhandled
      simp [isLost, Delivery.isSuccess, hscheme]
    | failed complaint => rfl
    | invalidUrl complaint => exact hhandled.elim
  cases hsuccess : reply.isSuccess with
  | true =>
    simp [journal, hlost, hsuccess, AuditService.left, AuditService.post?, AuditService.warning?, h,
      Journal.post]
  | false =>
    rw [journal, hlost, hsuccess]
    simp [hsuccess, AuditService.left, AuditService.post?, AuditService.warning?, h]
    rfl

theorem entries_journals (attempts : List Attempt) :
    (journals attempts).entries = attempts.flatMap fun attempt => attempt.journal.entries := by
  induction attempts with
  | nil => rfl
  | cons attempt rest ih =>
    rw [journals_cons, List.flatMap_cons, ← ih]
    rfl

end Attempt

namespace AuditService

theorem reply_tail (service : AuditService) (number : Nat) :
    { service with replies := service.replies.tail }.reply number = service.reply (number + 1) := by
  simp [reply]

theorem postsBefore_succ (who : Option Uuid) (event : Event) (events : List Event) (place : Nat) :
    postsBefore who (event :: events) (place + 1) =
      postsBefore who events place + if (event.actor? who).isSome then 1 else 0 :=
  List.countP_cons

/-- Each event with the reply to its post, or to the next post if it has none. -/
def answers (service : AuditService) (who : Option Uuid) (events : List Event) :
    List (Event × Delivery) :=
  events.zipIdx.map fun (event, place) => (event, service.reply (postsBefore who events place))

theorem answers_withheld (service : AuditService) {who : Option Uuid} {event : Event}
    (h : event.actor? who = none) (rest : List Event) :
    service.answers who (event :: rest) = (event, service.reply 0) :: service.answers who rest := by
  have hplaces : ∀ place,
      postsBefore who (event :: rest) (place + 1) = postsBefore who rest place := by
    simp [postsBefore_succ, h]
  simp only [answers, List.zipIdx_cons', List.map_cons, List.map_map, Function.comp_def, Prod.map,
    id, hplaces]
  rfl

theorem answers_posted (service : AuditService) {who : Option Uuid} {event : Event} {user : Uuid}
    (h : event.actor? who = some user) (rest : List Event) :
    service.answers who (event :: rest) =
      (event, service.reply 0) ::
        { service with replies := service.replies.tail }.answers who rest := by
  have hplaces : ∀ place,
      postsBefore who (event :: rest) (place + 1) = postsBefore who rest place + 1 := by
    simp [postsBefore_succ, h]
  simp only [answers, List.zipIdx_cons', List.map_cons, List.map_map, Function.comp_def, Prod.map,
    id, hplaces, reply_tail]
  rfl

/-- What the attempts of a service leave behind is what is left of each event in turn. -/
theorem attempts_entries (correlation : Option String) (stored : Json) (url : String)
    (who : Option Uuid) (service : AuditService) (events : List Event)
    (h : ∀ number, (service.reply number).Handled url) :
    (Attempt.journals (service.attempts ⟨correlation, stored⟩ url who events)).entries =
      (service.answers who events).flatMap (service.left url correlation who) := by
  -- For every service at once: each post uses up a reply of it.
  induction events generalizing service with
  | nil => rfl
  | cons event rest ih =>
    cases hwho : event.actor? who with
    | none =>
      have hrest := ih service h
      simp only [attempts, hwho, Attempt.entries_journals, List.flatMap_cons] at hrest ⊢
      rw [hrest, answers_withheld service hwho, List.flatMap_cons,
        Attempt.withheld_entries service url correlation hwho (service.reply 0)]
    | some user =>
      have hrest := ih { service with replies := service.replies.tail }
        fun number => service.reply_tail number ▸ h (number + 1)
      have hfirst : service.replies.headD .created = service.reply 0 := by
        cases hreplies : service.replies <;> simp [reply, hreplies]
      simp only [attempts, hwho, Attempt.entries_journals, List.flatMap_cons] at hrest ⊢
      rw [hrest, hfirst, answers_posted service hwho, List.flatMap_cons,
        Attempt.posted_entries service correlation hwho (h 0)]
      rfl

/-- Every event comes with a delivered post or with a warning. -/
theorem balance (who : Option Uuid) (service : AuditService) (events : List Event) :
    events.length =
      ((List.range (events.countP fun event => (event.actor? who).isSome)).countP
        fun number => (service.reply number).isSuccess) +
      ((service.answers who events).filterMap (warning? who)).length := by
  induction events generalizing service with
  | nil => rfl
  | cons event rest ih =>
    cases hwho : event.actor? who with
    | none =>
      have hrest := ih service
      rw [answers_withheld service hwho, List.filterMap_cons_some (warning?_withheld hwho _),
        List.countP_cons_of_neg (by simp [hwho])]
      simp only [List.length_cons]
      omega
    | some user =>
      have hrest := ih { service with replies := service.replies.tail }
      have hfirst := warning?_posted hwho (service.reply 0)
      rw [answers_posted service hwho, List.countP_cons_of_pos (by simp [hwho]),
        List.range_succ_eq_map, List.countP_cons, List.countP_map, List.filterMap_cons, hfirst]
      simp only [Function.comp_def, Nat.succ_eq_add_one, ← reply_tail, List.length_cons]
      cases (service.reply 0).isSuccess <;> simp <;> omega

theorem reply_handled {service : AuditService} {url : String} (hscheme : Url.namesScheme url = true)
    (hreplies : ∀ complaint, .invalidUrl complaint ∉ service.replies) (number : Nat) :
    (service.reply number).Handled url := by
  cases hreply : service.reply number with
  | status code complaint => exact hscheme
  | failed complaint => trivial
  | invalidUrl complaint =>
    rw [reply, List.getD_eq_getElem?_getD] at hreply
    cases hgiven : service.replies[number]? with
    | none => simp [hgiven, Delivery.created] at hreply
    | some given =>
      have hmem := List.mem_of_getElem? hgiven
      simp only [hgiven, Option.getD_some] at hreply
      exact absurd (hreply ▸ hmem) (hreplies complaint)

end AuditService

/-- Where each part of a journal has at most one entry of a kind, the entries of that kind are those
of the parts. -/
theorem Journal.filterMap_parts {α β : Type} {part : α → List Journal.Entry}
    {kind : Journal.Entry → Option β} {own : α → Option β}
    (h : ∀ source, (part source).filterMap kind = (own source).toList) (sources : List α) :
    (sources.flatMap part).filterMap kind = sources.filterMap own := by
  induction sources with
  | nil => rfl
  | cons source sources ih =>
    rw [List.flatMap_cons, List.filterMap_append, ih, h, List.filterMap_cons]
    cases own source <;> rfl

namespace AuditService

/-- A service whose address and replies are usable carries every batch, and what it leaves behind
is what is left of each event in turn. -/
theorem publish_entries {service : AuditService} {url : Url} (hurl : service.url = .ok url)
    (hhandled : ∀ number, (service.reply number).Handled url.text) {correlation : Option String}
    {stored : Json} {who : Option Uuid}
    (hactor : (Context.mk correlation stored).actorId? = .ok who) (events : List Event) :
    (service.publish ⟨correlation, stored⟩ events).1 = .ok () ∧
      (service.publish ⟨correlation, stored⟩ events).2.1.entries =
        (service.answers who events).flatMap (service.left url.text correlation who) := by
  have hraised := (attempts_handled ⟨correlation, stored⟩ url.text who service events).mpr
    fun number _ => hhandled number
  have hentries := attempts_entries correlation stored url.text who service events hhandled
  obtain ⟨hresult, hjournal⟩ := deliver_attempts hactor url.text service events
  rw [Attempt.made_eq hraised] at hjournal
  have hdeliver : service.publish ⟨correlation, stored⟩ events =
      service.deliver ⟨correlation, stored⟩ url.text events := by
    cases events with
    | nil => rfl
    | cons event rest => simp [publish, hurl]
  rw [hdeliver, hresult, hjournal]
  exact ⟨Attempt.outcome_ok_iff.mpr hraised, hentries⟩

theorem posts_left (service : AuditService) (url : String) (correlation : Option String)
    (who : Option Uuid) (answer : Event × Delivery) :
    (service.left url correlation who answer).filterMap Journal.Entry.post? =
      (service.post? url correlation who answer.1).toList := by
  rw [left]
  cases service.post? url correlation who answer.1 <;> cases warning? who answer <;> rfl

theorem logs_left (service : AuditService) (url : String) (correlation : Option String)
    (who : Option Uuid) (answer : Event × Delivery) :
    (service.left url correlation who answer).filterMap Journal.Entry.line? =
      (warning? who answer).toList := by
  rw [left]
  cases service.post? url correlation who answer.1 <;> cases warning? who answer <;> rfl

theorem answers_events (service : AuditService) (who : Option Uuid) (events : List Event) :
    (service.answers who events).map Prod.fst = events := by
  rw [answers, List.map_map]
  exact List.zipIdx_map_fst 0 events

theorem eventLine_not_left (service : AuditService) (url : String) (correlation : Option String)
    (who : Option Uuid) (answers : List (Event × Delivery)) (event : Event) :
    .line (Publisher.eventLine event) ∉ answers.flatMap (service.left url correlation who) := by
  have hlogger : ∀ answer line, warning? who answer = some line →
      line ≠ Publisher.eventLine event := by
    rintro ⟨about, reply⟩ line hwarning rfl
    rw [warning?] at hwarning
    split at hwarning
    · cases hwarning
    · split at hwarning
      · cases hwarning
      · cases hwarning
  intro hmem
  obtain ⟨answer, -, hleft⟩ := List.mem_flatMap.mp hmem
  rcases List.mem_append.mp hleft with hpost | hwarning
  · simp at hpost
  · obtain ⟨line, hline, heq⟩ := List.mem_map.mp hwarning
    exact hlogger answer line (Option.mem_toList.mp hline) (Journal.Entry.line.inj heq)

end AuditService

theorem Publisher.publishAll_logged {context : Context} {events : List Event}
    {publisher : Publisher} (h : (publisher.publish context events).1 = .ok ()) :
    (publishAll context events [.log, publisher]).1 = .ok () ∧
      (publishAll context events [.log, publisher]).2.1 =
        .ofLines (events.map eventLine) ++ (publisher.publish context events).2.1 := by
  have hlog : publish context events .log = (.ok (), .ofLines (events.map eventLine), .log) := rfl
  rcases hpublish : publisher.publish context events with ⟨result, journal, told⟩
  rw [hpublish] at h
  cases h
  simp [publishAll, hlog, hpublish]

theorem Journal.lines_first {lines : List LogLine} {rest before later : List Journal.Entry}
    {post : Post} (h : lines.map .line ++ rest = before ++ .post post :: later) :
    lines.map .line <+: before ∧ later <:+ rest := by
  rcases List.append_eq_append_iff.mp h with ⟨more, rfl, hrest⟩ | ⟨more, hlines, hrest⟩
  · exact ⟨List.prefix_append _ _, hrest ▸ ⟨more ++ [.post post], by simp⟩⟩
  · rcases more with _ | ⟨entry, more⟩
    · rw [List.append_nil] at hlines
      exact ⟨hlines ▸ List.prefix_rfl, ⟨[.post post], hrest⟩⟩
    · -- Else the post would stand among the lines.
      obtain rfl : Journal.Entry.post post = entry := (List.cons.inj hrest).1
      have hmem : Journal.Entry.post post ∈ lines.map .line := by simp [hlines]
      simp at hmem

namespace AuditService

/-- Every event is accounted for at a service whose address can be requested. Publishing ends
without a failure. There is one post for each event that has an actor, in order, and one warning for
each event without an actor and for each post that is not delivered, in order; so the events are as
many as the delivered posts and the warnings. In a round after the log, all events are logged before
the first post. -/
theorem events_accounted_for {service : AuditService} {url : Url} (hurl : service.url = .ok url)
    (hscheme : Url.namesScheme url.text = true)
    (hreplies : ∀ complaint, .invalidUrl complaint ∉ service.replies)
    (correlation : Option String) (stored : Option Text) (events : List Event) :
    let context : Context := ⟨correlation, .ofText? stored⟩
    let who := stored.bind Uuid.ofText?
    let published := service.publish context events
    let round := Publisher.publishAll context events [.log, .audit service]
    let told : List Journal.Entry := events.map fun event => .line (Publisher.eventLine event)
    published.1 = .ok () ∧
      published.2.1.posts = events.filterMap (service.post? url.text correlation who) ∧
      published.2.1.logs = (service.answers who events).filterMap (warning? who) ∧
      events.length =
        ((List.range published.2.1.posts.length).countP
          fun number => (service.reply number).isSuccess) + published.2.1.logs.length ∧
      round.1 = .ok () ∧
      round.2.1.entries = told ++ published.2.1.entries ∧
      ∀ before post later, round.2.1.entries = before ++ .post post :: later →
        told <+: before ∧ ∀ event, .line (Publisher.eventLine event) ∉ later := by
  intro context who published round told
  have hhandled := reply_handled hscheme hreplies
  have hactor : context.actorId? = .ok who := Context.actorId?_text correlation stored
  obtain ⟨hok, hleft⟩ : published.1 = .ok () ∧ published.2.1.entries =
      (service.answers who events).flatMap (service.left url.text correlation who) :=
    publish_entries hurl hhandled hactor events
  obtain ⟨hround, hlogged⟩ : round.1 = .ok () ∧
      round.2.1 = .ofLines (events.map Publisher.eventLine) ++ published.2.1 :=
    Publisher.publishAll_logged hok
  clear_value published round who
  have hposts : published.2.1.posts =
      events.filterMap (service.post? url.text correlation who) := by
    have hevents := service.answers_events who events
    rw [Journal.posts, hleft, Journal.filterMap_parts (service.posts_left url.text correlation who),
      ← hevents, List.filterMap_map, hevents]
    rfl
  have hlogs : published.2.1.logs = (service.answers who events).filterMap (warning? who) := by
    rw [Journal.logs, hleft, Journal.filterMap_parts (service.logs_left url.text correlation who)]
  have hcount : published.2.1.posts.length =
      events.countP fun event => (event.actor? who).isSome := by
    simp [hposts, List.length_filterMap_eq_countP, post?]
  have htold : (events.map Publisher.eventLine).map .line = told := by simp [told]
  have hentries : round.2.1.entries = told ++ published.2.1.entries := by
    rw [hlogged, ← htold]
    rfl
  refine ⟨hok, hposts, hlogs, ?_, hround, hentries, ?_⟩
  · rw [hcount, hlogs]
    exact balance who service events
  · intro before post later hsplit
    rw [hentries, ← htold] at hsplit
    obtain ⟨hbefore, hlater⟩ := Journal.lines_first hsplit
    refine ⟨htold ▸ hbefore, fun event hmem => ?_⟩
    exact eventLine_not_left service url.text correlation who (service.answers who events) event
      (hleft ▸ hlater.subset hmem)

def faltering : AuditService :=
  { baseUrl := "http://audit.local/",
    replies := [.status 503 "overloaded", .failed "no route", .status 204 ""] }

def assigned (number : Nat) : Event :=
  ⟨.epoch, .assignmentCreated (Uuid.ofNat number) (Uuid.ofNat 7) (Uuid.ofNat 8)
    ⟨.organization, Uuid.ofNat 9⟩ (Uuid.ofNat 10)⟩

/-- Nobody is named as acting, so an event is posted only if it names who acted. -/
theorem events_accounted_for_faltering :
    let deleted : Event := ⟨.epoch, .roleDeleted (Uuid.ofNat 7)⟩
    let events := [assigned 1, deleted, assigned 2, assigned 3]
    let published := faltering.publish ⟨none, .ofText? none⟩ events
    let url : Url :=
      { scheme := "http", host := "audit.local", path := "/api/v1/audit" }
    faltering.url = .ok url ∧ Url.namesScheme url.text = true ∧
      (∀ message, .invalidUrl message ∉ faltering.replies) ∧
      published.1 = .ok () ∧
      published.2.1.posts.map (fun post => post.entry.entity) =
        [Uuid.ofNat 1, Uuid.ofNat 2, Uuid.ofNat 3] ∧
      published.2.1.logs =
        [deliveryFailed (assigned 1) "overloaded", noActor deleted,
          deliveryFailed (assigned 2) "no route"] := by
  intro deleted events published url
  have hurl : faltering.url = .ok url := by decide +kernel
  have hscheme : Url.namesScheme url.text = true := by decide +kernel
  have hreplies : ∀ message, .invalidUrl message ∉ faltering.replies := by simp [faltering]
  obtain ⟨hok, hposts, hlogs, -⟩ :=
    events_accounted_for hurl hscheme hreplies none none events
  refine ⟨hurl, hscheme, hreplies, hok, ?_, ?_⟩
  · rw [hposts]
    rfl
  · rw [hlogs]
    rfl

end AuditService
end Rbac
