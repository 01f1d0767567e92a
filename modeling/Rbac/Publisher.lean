import Rbac.Audit
import Rbac.Failure
import Rbac.Log
import Rbac.Url.Basic

namespace Rbac

/-- How a post is answered, and what the client that makes it says of that. -/
inductive Delivery where
  | status (code : Nat) (complaint : Text)
  /-- The transport failed. -/
  | failed (complaint : Text)
  /-- The address cannot be requested at all; this is no failed delivery. -/
  | invalidUrl (complaint : Text)
deriving DecidableEq, Repr

namespace Delivery

def created : Delivery := .status 201 ""

def complaint : Delivery → Text
  | .status _ complaint | .failed complaint | .invalidUrl complaint => complaint

end Delivery

structure Post where
  url : String
  entry : AuditEntry
deriving DecidableEq

/-- One thing that publishing leaves behind. -/
inductive Journal.Entry where
  | line (line : LogLine)
  | post (post : Post)
deriving DecidableEq

def Journal.Entry.line? : Journal.Entry → Option LogLine
  | .line logged => some logged
  | .post _ => none

def Journal.Entry.post? : Journal.Entry → Option Post
  | .line _ => none
  | .post made => some made

/-- What publishing leaves behind, in order. -/
structure Journal where
  entries : List Journal.Entry := []
deriving DecidableEq

namespace Journal

def append (a b : Journal) : Journal :=
  ⟨a.entries ++ b.entries⟩

instance : Append Journal := ⟨append⟩

def ofLines (lines : List LogLine) : Journal := ⟨lines.map .line⟩

def log (line : LogLine) : Journal := ofLines [line]

def post (post : Post) : Journal := ⟨[.post post]⟩

def logs (journal : Journal) : List LogLine :=
  journal.entries.filterMap Entry.line?

def posts (journal : Journal) : List Post :=
  journal.entries.filterMap Entry.post?

@[simp] theorem empty_append (journal : Journal) : ({} : Journal) ++ journal = journal := rfl

@[simp] theorem append_empty (journal : Journal) : journal ++ ({} : Journal) = journal :=
  congrArg Journal.mk (List.append_nil journal.entries)

theorem append_assoc (a b c : Journal) : a ++ b ++ c = a ++ (b ++ c) :=
  congrArg Journal.mk (List.append_assoc a.entries b.entries c.entries)

@[simp] theorem ofLines_nil : ofLines [] = {} := rfl

@[simp] theorem logs_append (a b : Journal) : (a ++ b).logs = a.logs ++ b.logs :=
  List.filterMap_append

@[simp] theorem posts_append (a b : Journal) : (a ++ b).posts = a.posts ++ b.posts :=
  List.filterMap_append

@[simp] theorem logs_ofLines (lines : List LogLine) : (ofLines lines).logs = lines := by
  rw [logs, ofLines, List.filterMap_map]
  exact List.filterMap_some

@[simp] theorem posts_ofLines (lines : List LogLine) : (ofLines lines).posts = [] := by
  rw [posts, ofLines, List.filterMap_map]
  exact List.filterMap_eq_nil_iff.mpr fun _ _ => rfl

@[simp] theorem logs_post (post : Post) : (Journal.post post).logs = [] := rfl

@[simp] theorem posts_post (post : Post) : (Journal.post post).posts = [post] := rfl

end Journal

/-- An audit service: its address, the name under which this service reports, and the answers to
the posts still to come. -/
structure AuditService where
  baseUrl : String
  name : String := "access-control"
  replies : List Delivery := []

namespace AuditService

def path : Url := { path := "/api/v1/audit" }

def url (service : AuditService) : Except Url.Flaw Url := do
  (← Url.readBase (Text.dropTrailing '/' service.baseUrl)).join path

/-- Who is named as acting: the actor of the request, else whoever made an assignment. -/
def actorOf? (context : Context) (event : Event) : Except Failure (Option Uuid) :=
  context.actorId?.map fun actor => actor.or <|
    match event.change with
    | .assignmentCreated _ _ _ _ assignedBy => some assignedBy
    | _ => none

/-- The next answer; after the last one given every post is created. -/
def nextReply (service : AuditService) : Delivery × AuditService :=
  match service.replies with
  | [] => (.created, service)
  | reply :: replies => (reply, { service with replies })

def isSuccess (code : Nat) : Bool :=
  200 ≤ code && code < 300

def deliveryFailed (event : Event) (complaint : Text) : LogLine :=
  .audit (.ofString s!"Audit delivery failed for {event.name}: " ++ complaint)

def noActor (event : Event) : LogLine :=
  .audit s!"No actor for {event.name}; not sent to audit service"

/-- What comes of an answered post: whether it was delivered. A URL without a scheme is only found
out once it has been answered. -/
def delivered (url : String) : Delivery → Except Failure Bool
  | .status code _ =>
    if Url.namesScheme url then .ok (isSuccess code) else .error (.badValue (Url.unknownKind url))
  | .failed _ => .ok false
  | .invalidUrl complaint => .error (.invalidUrl complaint)

/-- Posts the events that have an actor, one after another. -/
def deliver (context : Context) (url : String) :
    AuditService → List Event → Except Failure Unit × Journal × AuditService
  | service, [] => (.ok (), {}, service)
  | service, event :: rest =>
    match actorOf? context event with
    | .error failure => (.error failure, {}, service)
    | .ok none =>
      let (result, journal, service) := service.deliver context url rest
      (result, .log (noActor event) ++ journal, service)
    | .ok (some actor) =>
      let post : Post := ⟨url, .ofEvent event actor service.name context.correlation⟩
      let (reply, service) := service.nextReply
      match delivered url reply with
      | .error failure => (.error failure, .post post, service)
      | .ok isDelivered =>
        let lines := if isDelivered then [] else [deliveryFailed event reply.complaint]
        let (result, journal, service) := service.deliver context url rest
        (result, .post post ++ .ofLines lines ++ journal, service)

def publish (context : Context) (service : AuditService) (events : List Event) :
    Except Failure Unit × Journal × AuditService :=
  if events.isEmpty then (.ok (), {}, service)
  else match service.url with
    | .error flaw => (.error (.invalidUrl flaw.message), {}, service)
    | .ok url => service.deliver context url.text events

end AuditService

inductive Publisher where
  | log
  | audit (service : AuditService)

namespace Publisher

def eventLine (event : Event) : LogLine :=
  .event s!"Domain event {event.name}: {event.shown}"

def publish (context : Context) (events : List Event) :
    Publisher → Except Failure Unit × Journal × Publisher
  | .log => (.ok (), .ofLines (events.map eventLine), .log)
  | .audit service =>
    let (result, journal, service) := service.publish context events
    (result, journal, .audit service)

/-- Publishes to each publisher in order; a failure stops the round. -/
def publishAll (context : Context) (events : List Event) :
    List Publisher → Except Failure Unit × Journal × List Publisher
  | [] => (.ok (), {}, [])
  | publisher :: rest =>
    match publisher.publish context events with
    | (.error failure, journal, publisher) => (.error failure, journal, publisher :: rest)
    | (.ok (), journal, publisher) =>
      let (result, more, rest) := publishAll context events rest
      (result, journal ++ more, publisher :: rest)

end Publisher
end Rbac
