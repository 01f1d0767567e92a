import Rbac.Audit
import Rbac.Proofs.Json.RoundTrip

namespace Rbac

def Json.string? (name : Text) (value : Json) : Option String := do
  (← (← value.member? name).str?).string?

def Json.id? (name : Text) (value : Json) : Option Uuid := do
  Uuid.readPlain? (← value.string? name)

def ScopeType.ofText? (text : String) : Option ScopeType :=
  all.find? (·.text == text)

def Scope.ofRecord? (record : Json) : Option Scope := do
  return ⟨← ScopeType.ofText? (← record.string? "type"), ← record.id? "id"⟩

/-- Reads a change from the details of an audit entry. Which fields there are tells what kind of
change it is. -/
def Change.ofDetails? (details : Json) : Option Change := do
  let role ← details.id? "role_id"
  match details.id? "assignment_id", details.member? "role_name", details.member? "scope" with
  | some assignment, _, some scope =>
    let user ← details.id? "user_id"
    let scope ← Scope.ofRecord? scope
    match details.id? "assigned_by" with
    | some assignedBy => return .assignmentCreated assignment role user scope assignedBy
    | none => return .assignmentRevoked assignment role user scope
  | none, some name, some scope => return .roleCreated role (← name.str?) (← Scope.ofRecord? scope)
  | none, some name, none => return .roleUpdated role (← name.str?)
  | none, none, _ => return .roleDeleted role
  | some _, _, none => none

def Event.ofDetails? (details : String) : Option Event :=
  match Json.read details with
  | .ok details => do
    return ⟨← Instant.read? (← details.string? "occurred_at"), ← Change.ofDetails? details⟩
  | .error _ => none

theorem Scope.ofRecord?_record (scope : Scope) : ofRecord? scope.record = some scope := by
  obtain ⟨type, id⟩ := scope
  have htype : ScopeType.ofText? type.text = some type := by cases type <;> decide
  simp [ofRecord?, record, Json.string?, Json.id?, Json.member?, Json.str?, htype,
    Uuid.readPlain?_text]

theorem Change.ofDetails?_details (event : Event) :
    ofDetails? event.details = some event.change := by
  obtain ⟨occurredAt, change⟩ := event
  cases change <;>
    simp [Event.details, fields, ofDetails?, Json.string?, Json.id?, Json.member?, Json.str?,
      Uuid.readPlain?_text, Scope.ofRecord?_record]

def Change.roleName? : Change → Option Text
  | .roleCreated _ name _ | .roleUpdated _ name => some name
  | .roleDeleted _ | .assignmentCreated .. | .assignmentRevoked .. => none

/-- Whether no halves of a pair stand side by side in the role name of an event, if it has one. A
name of characters alone holds no halves at all. -/
def Event.NameApart (event : Event) : Prop :=
  ∀ name ∈ event.change.roleName?, name.Apart

theorem Event.nameApart_of_whole {event : Event}
    (h : ∀ name ∈ event.change.roleName?, name.hasHalf = false) : event.NameApart :=
  fun name hname => Text.apart_of_whole (h name hname)

theorem Scope.record_readable (scope : Scope) : scope.record.Readable := by
  simp [record, Json.Readable, Json.ReadableMembers]

theorem Event.details_readable {event : Event} (h : event.NameApart) :
    event.details.Readable := by
  obtain ⟨occurredAt, change⟩ := event
  simp only [details, Change.fields, Json.Readable]
  cases change with
  | roleCreated role name scope =>
    have hname : name.Apart := h name rfl
    simp [Json.ReadableMembers, Json.Readable, Scope.record_readable, hname]
  | roleUpdated role name =>
    have hname : name.Apart := h name rfl
    simp [Json.ReadableMembers, Json.Readable, hname]
  | roleDeleted role => simp [Json.ReadableMembers, Json.Readable]
  | assignmentCreated assignment role user scope assignedBy =>
    simp [Json.ReadableMembers, Json.Readable, Scope.record_readable]
  | assignmentRevoked assignment role user scope =>
    simp [Json.ReadableMembers, Json.Readable, Scope.record_readable]

theorem Event.details_depth (event : Event) : event.details.depth ≤ Json.Reader.maxDepth := by
  obtain ⟨occurredAt, change⟩ := event
  cases change <;> simp [details, Change.fields, Json.depth, Json.membersDepth, Scope.record,
    Json.Reader.maxDepth]

theorem Event.read_details {event : Event} (h : event.NameApart) :
    Json.read event.details.text = .ok event.details :=
  Json.read_text (details_readable h) event.details_depth

theorem Event.ofDetails?_details {event : Event} (h : event.NameApart) :
    ofDetails? event.details.text = some event := by
  have hmoment : event.details.string? "occurred_at" = some event.occurredAt.spacedText := by
    simp [details, Json.string?, Json.member?, Json.str?]
  rw [ofDetails?, read_details h]
  simp [hmoment, Instant.read?_spacedText, Change.ofDetails?_details]

theorem Event.details_text_inj {a b : Event} (ha : a.NameApart) (hb : b.NameApart) :
    a.details.text = b.details.text ↔ a = b := by
  constructor
  · intro htext
    have hread := ofDetails?_details ha
    rw [htext, ofDetails?_details hb] at hread
    exact (Option.some.inj hread).symm
  · rintro rfl
    rfl

/-- The class of an event, what an entry says of it, and which of its fields has its own id. -/
structure AuditKind where
  name : String
  action : String
  entityType : String
  ownId : String
deriving DecidableEq

def AuditKind.all : List AuditKind := [
  ⟨"RoleCreated", "role.created", "Role", "role_id"⟩,
  ⟨"RoleUpdated", "role.updated", "Role", "role_id"⟩,
  ⟨"RoleDeleted", "role.deleted", "Role", "role_id"⟩,
  ⟨"RoleAssignmentCreated", "role_assignment.created", "RoleAssignment", "assignment_id"⟩,
  ⟨"RoleAssignmentRevoked", "role_assignment.revoked", "RoleAssignment", "assignment_id"⟩]

/-- The member of an entry that carries the id of a scope of a type. -/
def AuditEntry.scopeName : ScopeType → String
  | .organization => "organizationId"
  | .workspace => "workspaceId"

theorem Event.details_scope (event : Event) :
    event.details.member? "scope" = event.scope?.map Scope.record := by
  obtain ⟨occurredAt, change⟩ := event
  cases change <;> rfl

namespace AuditEntry

variable (event : Event) (actor : Uuid) (service : String) (correlation : Option String)

theorem toJson_kind :
    let payload := (ofEvent event actor service correlation).toJson
    ∃ kind ∈ AuditKind.all, event.name = kind.name ∧
      payload.member? "action" = some (.str kind.action) ∧
      payload.member? "entityType" = some (.str kind.entityType) ∧
      payload.member? "entityId" = some (.str event.entityId.text) ∧
      event.details.member? kind.ownId = some (.str event.entityId.text) := by
  obtain ⟨occurredAt, change⟩ := event
  cases change with
  | roleCreated => exact ⟨AuditKind.all[0], List.getElem_mem _, rfl, rfl, rfl, rfl, rfl⟩
  | roleUpdated => exact ⟨AuditKind.all[1], List.getElem_mem _, rfl, rfl, rfl, rfl, rfl⟩
  | roleDeleted => exact ⟨AuditKind.all[2], List.getElem_mem _, rfl, rfl, rfl, rfl, rfl⟩
  | assignmentCreated => exact ⟨AuditKind.all[3], List.getElem_mem _, rfl, rfl, rfl, rfl, rfl⟩
  | assignmentRevoked => exact ⟨AuditKind.all[4], List.getElem_mem _, rfl, rfl, rfl, rfl, rfl⟩

theorem toJson_scopeName (type : ScopeType) :
    (ofEvent event actor service correlation).toJson.member? (scopeName type) =
      (event.scope?.filter (·.type == type)).map fun scope => .str scope.id.text := by
  have hscope : (ofEvent event actor service correlation).scope = event.scope? := rfl
  rw [toJson, hscope]
  generalize ofEvent event actor service correlation = entry
  cases entry.correlation <;> cases event.scope? with
  | none => cases type <;> rfl
  | some scope =>
    obtain ⟨own, id⟩ := scope
    cases type <;> cases own <;> rfl

end AuditEntry

/-- An entry loses nothing of its event. Its details are ASCII and are read back as the fields of
the event, the moment first, from which the event itself is read back; so the details of two events
differ if the events do. The action and the entity are those of the class of the event, and the id
of the scope, if there is one, stands under the name for its type alone. -/
theorem audit_entry_lossless (event : Event) (h : event.NameApart) (actor : Uuid)
    (service : String) (correlation : Option String) :
    let entry := AuditEntry.ofEvent event actor service correlation
    let payload := entry.toJson
    let details : Json :=
      .obj (("occurred_at", .str event.occurredAt.spacedText) :: event.change.fields)
    (∀ c ∈ entry.details.toList, c.toNat < 0x80) ∧
      payload.member? "details" = some (.str entry.details) ∧
      Json.read entry.details = .ok details ∧
      Event.ofDetails? entry.details = some event ∧
      (∀ other : Event, other.NameApart → ∀ actor' service' correlation',
        (AuditEntry.ofEvent other actor' service' correlation').details = entry.details ↔
          other = event) ∧
      (∃ kind ∈ AuditKind.all, event.name = kind.name ∧
        payload.member? "action" = some (.str kind.action) ∧
        payload.member? "entityType" = some (.str kind.entityType) ∧
        payload.member? "entityId" = some (.str event.entityId.text) ∧
        details.member? kind.ownId = some (.str event.entityId.text)) ∧
      match event.scope? with
      | none =>
        (∀ type, payload.member? (AuditEntry.scopeName type) = none) ∧
          details.member? "scope" = none
      | some scope =>
        payload.member? (AuditEntry.scopeName scope.type) = some (.str scope.id.text) ∧
          (∀ type, type ≠ scope.type → payload.member? (AuditEntry.scopeName type) = none) ∧
          details.member? "scope" =
            some (.obj [("type", .str scope.type.text), ("id", .str scope.id.text)]) := by
  intro entry payload details
  have hscopeName := AuditEntry.toJson_scopeName event actor service correlation
  have hscope : details.member? "scope" = event.scope?.map Scope.record := event.details_scope
  have hdetails : entry.details = event.details.text := rfl
  refine ⟨?_, rfl, hdetails ▸ Event.read_details h, hdetails ▸ Event.ofDetails?_details h,
    fun other hother _ _ _ => Event.details_text_inj hother h,
    AuditEntry.toJson_kind event actor service correlation, ?_⟩
  · intro c hc
    rw [hdetails, Json.text, String.toList_ofList] at hc
    have hplain := List.all_eq_true.mp event.details.chars_plain c hc
    simp only [Text.isPlain, Bool.and_eq_true, decide_eq_true_eq] at hplain
    omega
  · cases hevent : event.scope? with
    | none =>
      simp only [hevent] at hscopeName hscope
      exact ⟨hscopeName, hscope⟩
    | some scope =>
      simp only [hevent] at hscopeName hscope
      refine ⟨?_, fun type htype => ?_, hscope⟩
      · rw [hscopeName, Option.filter_some, if_pos (by simp), Option.map_some]
      · rw [hscopeName, Option.filter_some, if_neg (by simpa using Ne.symm htype), Option.map_none]

/-- A role whose name holds a quote, a backslash, controls, and characters of two and of four
bytes. -/
theorem audit_entry_lossless_escaped :
    let name := "a\"b\\c\n\x00\x7f\u00e9\u2028😀"
    let event : Event :=
      ⟨.epoch, .roleCreated (Uuid.ofNat 7) name ⟨.workspace, Uuid.ofNat 9⟩⟩
    let entry := AuditEntry.ofEvent event (Uuid.ofNat 10) "access-control" none
    event.NameApart ∧ Event.ofDetails? entry.details = some event ∧
      entry.toJson.member? "workspaceId" = some (.str (Uuid.ofNat 9).text) ∧
      entry.toJson.member? "organizationId" = none := by
  intro name event entry
  have hname : event.NameApart := Event.nameApart_of_whole (by decide +kernel)
  obtain ⟨-, -, -, hback, -, -, hown, hother, -⟩ :=
    audit_entry_lossless event hname (Uuid.ofNat 10) "access-control" none
  exact ⟨hname, hback, hown, hother .organization (by decide)⟩

end Rbac
