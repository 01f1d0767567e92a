import Rbac.Proofs.Dispatching
import Rbac.Proofs.Grouping
import Rbac.Proofs.Matching
import Rbac.Proofs.Rules

namespace Rbac

namespace Text

def whiteSpace : List Nat :=
  [0x09, 0x0A, 0x0B, 0x0C, 0x0D, 0x1C, 0x1D, 0x1E, 0x1F, 0x20, 0x85, 0xA0, 0x1680, 0x2000, 0x2001,
   0x2002, 0x2003, 0x2004, 0x2005, 0x2006, 0x2007, 0x2008, 0x2009, 0x200A, 0x2028, 0x2029, 0x202F,
   0x205F, 0x3000]

/-- A text that is empty or nothing but white space. -/
def Blank (text : Text) : Prop :=
  ∀ point ∈ text.points, point.value ∈ whiteSpace

theorem isBlank_iff {text : Text} : isBlank text = true ↔ Blank text := by
  rw [isBlank, List.all_eq_true]
  refine forall₂_congr fun point _ => ?_
  cases point with
  | char c =>
    simp only [CodePoint.char?, CodePoint.value, Option.any_some, isBlankChar, blankRanges,
      whiteSpace, List.any_cons, List.any_nil, Bool.or_eq_true, Bool.and_eq_true,
      decide_eq_true_eq, List.mem_cons, List.not_mem_nil, Bool.or_false, or_false]
    omega
  | half index =>
    have hindex : (index : Nat) < 0x800 := index.isLt
    simp only [CodePoint.char?, CodePoint.value, Option.any_none, Surrogate.firstHalf, whiteSpace,
      List.mem_cons, List.not_mem_nil, or_false, Bool.false_eq_true,
      false_iff]
    omega

end Text

theorem Uuid.isNil_iff {id : Uuid} : id.isNil = true ↔ id = .nil := by
  cases id
  simp [isNil, nil]

/-- What the rules of a field ask, in the order in which it is asked. -/
inductive Rule where
  | visible
  | short
  | formed
deriving DecidableEq

def Rule.rank : Rule → Nat
  | .visible => 0
  | .short => 1
  | .formed => 2

/-- What stands in a field that has rules. -/
inductive FieldValue where
  | id (value : Uuid)
  | text (limit : Nat) (value : Text)
  | description (value : Option Text)
  | action (value : Text)

namespace FieldValue

/-- Whether a value breaks a rule. Ids have no length, and only actions have a form. -/
def Breaks (pattern : Pattern) : FieldValue → Rule → Prop
  | .id value, .visible => value = .nil
  | .text _ value, .visible => Text.Blank value
  | .text limit value, .short => limit < value.length
  | .description value, .short => ∃ text ∈ value, 500 < text.length
  | .action value, .visible => Text.Blank value
  | .action value, .short => 200 < value.length
  | .action value, .formed => ¬ pattern.Matches value.points
  | _, _ => False

def message (field : String) : FieldValue → Rule → String
  | .action _, .visible => "Permission must not be empty."
  | .action _, .short => "Permission must be 200 characters or fewer."
  | .action _, .formed =>
    "Permission must be a lowercase action such as 'reports.view' or 'document:read'."
  | .text limit _, .short => s!"'{field}' must be {limit} characters or fewer."
  | .description _, .short => s!"'{field}' must be 500 characters or fewer."
  | _, _ => s!"'{field}' must not be empty."

/-- The rule that a value breaks first. -/
structure FirstBroken (pattern : Pattern) (value : FieldValue) (rule : Rule) : Prop where
  broken : value.Breaks pattern rule
  first : ∀ earlier, earlier.rank < rule.rank → ¬ value.Breaks pattern earlier

theorem FirstBroken.unique {pattern : Pattern} {value : FieldValue} {a b : Rule}
    (ha : value.FirstBroken pattern a) (hb : value.FirstBroken pattern b) : a = b := by
  rcases lt_trichotomy a.rank b.rank with hlt | heq | hgt
  · exact absurd ha.broken (hb.first a hlt)
  · cases a <;> cases b <;> first | rfl | cases heq
  · exact absurd hb.broken (ha.first b hgt)

section

variable {pattern : Pattern} {value : FieldValue}

theorem FirstBroken.visible (h : value.Breaks pattern .visible) :
    value.FirstBroken pattern .visible :=
  ⟨h, fun _ hlt => absurd hlt (Nat.not_lt_zero _)⟩

theorem FirstBroken.short (hvisible : ¬ value.Breaks pattern .visible)
    (h : value.Breaks pattern .short) :
    value.FirstBroken pattern .short := by
  refine ⟨h, fun earlier hlt => ?_⟩
  cases earlier with
  | visible => exact hvisible
  | short => exact absurd hlt (Nat.lt_irrefl _)
  | formed => exact absurd hlt (by decide)

theorem FirstBroken.formed (hvisible : ¬ value.Breaks pattern .visible)
    (hshort : ¬ value.Breaks pattern .short) (h : value.Breaks pattern .formed) :
    value.FirstBroken pattern .formed := by
  refine ⟨h, fun earlier hlt => ?_⟩
  cases earlier with
  | visible => exact hvisible
  | short => exact hshort
  | formed => exact absurd hlt (Nat.lt_irrefl _)

/-- A value that breaks a rule breaks one first. -/
theorem exists_firstBroken :
    (∃ rule, value.FirstBroken pattern rule) ↔ ∃ rule, value.Breaks pattern rule := by
  refine ⟨fun ⟨rule, hfirst⟩ => ⟨rule, hfirst.broken⟩, fun ⟨rule, h⟩ => ?_⟩
  by_cases hvisible : value.Breaks pattern .visible
  · exact ⟨.visible, .visible hvisible⟩
  · by_cases hshort : value.Breaks pattern .short
    · exact ⟨.short, .short hvisible hshort⟩
    · have hformed : value.Breaks pattern .formed := by cases rule <;> trivial
      exact ⟨.formed, .formed hvisible hshort hformed⟩

theorem action_breaks {action : Text} :
    (∃ rule, (FieldValue.action action).Breaks pattern rule) ↔
      Text.Blank action ∨ 200 < action.length ∨ ¬ pattern.Matches action.points := by
  constructor
  · rintro ⟨_ | _ | _, h⟩
    · exact .inl h
    · exact .inr (.inl h)
    · exact .inr (.inr h)
  · rintro (h | h | h)
    · exact ⟨.visible, h⟩
    · exact ⟨.short, h⟩
    · exact ⟨.formed, h⟩

end

end FieldValue

namespace Request

def permissions : Request → List Text
  | .createRole command => command.permissions
  | .updateRole command => command.permissions
  | _ => []

def actionField (index : Nat) : String :=
  s!"permissions[{index}]"

def plainFields : Request → List (String × FieldValue)
  | .createRole command =>
    [("name", .text 100 command.name), ("description", .description command.description),
      ("scopeId", .id command.scope.id)]
  | .updateRole command =>
    [("id", .id command.id), ("name", .text 100 command.name),
      ("description", .description command.description)]
  | .assignRole command =>
    [("roleId", .id command.role), ("userId", .id command.user), ("scopeId", .id command.scope.id),
      ("assignedBy", .id command.assignedBy)]
  | .revokeRole command =>
    [("roleId", .id command.role), ("userId", .id command.user), ("scopeId", .id command.scopeId)]
  | .checkPermission query =>
    [("userId", .id query.user), ("scopeId", .id query.scopeId),
      ("permission", .text 200 query.permission)]
  | .userPermissions query => [("userId", .id query.user), ("scopeId", .id query.scopeId)]
  | .deleteRole _ | .getRole _ | .listRoles _ => []

def actionFields (index : Nat) (actions : List Text) : List (String × FieldValue) :=
  (actions.zipIdx index).map fun (action, index) => (actionField index, .action action)

/-- The fields that have rules, in the order in which they are stated. -/
def fields (request : Request) : List (String × FieldValue) :=
  request.plainFields ++ actionFields 0 request.permissions

theorem actionField_inj {a b : Nat} (h : actionField a = actionField b) : a = b := by
  have htexts : (toString a).toList = (toString b).toList := by
    simpa [actionField, String.ext_iff, toString] using h
  rw [Nat.toString_eq_ofList_toDigits, Nat.toString_eq_ofList_toDigits, String.toList_ofList,
    String.toList_ofList] at htexts
  rw [← Nat.ofDigitChars_ten_toDigits (n := a), htexts, Nat.ofDigitChars_ten_toDigits]

theorem fields_eq_plainFields {request : Request} (h : request.permissions = []) :
    request.fields = request.plainFields := by
  rw [fields, h]
  exact List.append_nil _

theorem bracket_notMem_plainFields {request : Request} {field : String × FieldValue}
    (h : field ∈ request.plainFields) : '[' ∉ field.1.toList := by
  have hnames : ∀ name ∈ ["id", "name", "description", "scopeId", "roleId", "userId", "assignedBy",
      "permission"], '[' ∉ name.toList := by decide
  apply hnames
  cases request <;> simp only [plainFields, List.mem_cons, List.not_mem_nil, or_false] at h <;>
    rcases h with rfl | rfl | rfl | rfl <;> simp

theorem bracket_mem_actionField (index : Nat) : '[' ∈ (actionField index).toList := by
  simp [actionField, toString]

theorem fields_nodup (request : Request) : (request.fields.map Prod.fst).Nodup := by
  have hactions : (actionFields 0 request.permissions).map Prod.fst =
      (List.range' 0 request.permissions.length).map actionField := by
    rw [← List.zipIdx_map_snd, actionFields, List.map_map, List.map_map]
    rfl
  rw [fields, List.map_append, hactions, List.nodup_append]
  refine ⟨?_, List.Nodup.map (fun _ _ => actionField_inj) List.nodup_range', ?_⟩
  · cases request <;> simp [plainFields]
  · rintro name hplain _ haction rfl
    obtain ⟨field, hfield, rfl⟩ := List.mem_map.mp hplain
    obtain ⟨index, -, hindex⟩ := List.mem_map.mp haction
    exact bracket_notMem_plainFields hfield (hindex ▸ bracket_mem_actionField index)

theorem mem_fields_actionField {request : Request} {index : Nat} {value : FieldValue} :
    (actionField index, value) ∈ request.fields ↔
      ∃ action, request.permissions[index]? = some action ∧ value = .action action := by
  have hplain : (actionField index, value) ∉ request.plainFields :=
    fun h => bracket_notMem_plainFields h (bracket_mem_actionField index)
  rw [fields, List.mem_append, or_iff_right hplain, actionFields, List.mem_map]
  constructor
  · rintro ⟨⟨action, place⟩, hin, heq⟩
    obtain ⟨hfield, rfl⟩ := Prod.mk.inj heq
    obtain rfl := actionField_inj hfield
    exact ⟨action, List.mk_mem_zipIdx_iff_getElem?.mp hin, rfl⟩
  · rintro ⟨action, hat, rfl⟩
    exact ⟨(action, index), List.mk_mem_zipIdx_iff_getElem?.mpr hat, rfl⟩

end Request

/-- What is listed of fields: of each that breaks a rule, the message of the first one. -/
inductive Listed (pattern : Pattern) : List (String × FieldValue) → List Breach → Prop where
  | nil : Listed pattern [] []
  | kept {field : String} {value : FieldValue} {fields : List (String × FieldValue)}
      {broken : List Breach} :
    (∀ rule, ¬ value.Breaks pattern rule) → Listed pattern fields broken →
    Listed pattern ((field, value) :: fields) broken
  | broken {field : String} {value : FieldValue} {rule : Rule}
      {fields : List (String × FieldValue)} {broken : List Breach} :
    value.FirstBroken pattern rule → Listed pattern fields broken →
    Listed pattern ((field, value) :: fields) ((field, value.message field rule) :: broken)

namespace Listed

variable {pattern : Pattern} {fields more : List (String × FieldValue)}
  {broken others : List Breach}

theorem append (h : Listed pattern fields broken) (hmore : Listed pattern more others) :
    Listed pattern (fields ++ more) (broken ++ others) := by
  induction h with
  | nil => exact hmore
  | kept hkept _ ih => exact .kept hkept ih
  | broken hbroken _ ih => exact .broken hbroken ih

theorem sublist (h : Listed pattern fields broken) :
    (broken.map Prod.fst).Sublist (fields.map Prod.fst) := by
  induction h with
  | nil => exact .slnil
  | kept _ _ ih => exact ih.cons _
  | broken _ _ ih => exact ih.cons_cons _

theorem mem_iff (h : Listed pattern fields broken) {breach : Breach} :
    breach ∈ broken ↔ ∃ value rule, (breach.1, value) ∈ fields ∧
      value.FirstBroken pattern rule ∧ breach.2 = value.message breach.1 rule := by
  induction h with
  | nil => simp
  | @kept field value fields broken hkept _ ih =>
    rw [ih]
    constructor
    · rintro ⟨found, rule, hin, hfirst, hmessage⟩
      exact ⟨found, rule, List.mem_cons_of_mem _ hin, hfirst, hmessage⟩
    · rintro ⟨found, rule, hin, hfirst, hmessage⟩
      rcases List.mem_cons.mp hin with heq | hin
      · cases heq
        exact absurd hfirst.broken (hkept rule)
      · exact ⟨found, rule, hin, hfirst, hmessage⟩
  | @broken field value rule fields broken hbroken _ ih =>
    rw [List.mem_cons, ih]
    constructor
    · rintro (rfl | ⟨found, other, hin, hfirst, hmessage⟩)
      · exact ⟨value, rule, List.mem_cons_self, hbroken, rfl⟩
      · exact ⟨found, other, List.mem_cons_of_mem _ hin, hfirst, hmessage⟩
    · rintro ⟨found, other, hin, hfirst, hmessage⟩
      rcases List.mem_cons.mp hin with heq | hin
      · cases heq
        rw [hfirst.unique hbroken] at hmessage
        exact .inl (Prod.ext rfl hmessage)
      · exact .inr ⟨found, other, hin, hfirst, hmessage⟩

theorem mem_names_iff (h : Listed pattern fields broken) {field : String} :
    field ∈ broken.map Prod.fst ↔
      ∃ value, (field, value) ∈ fields ∧ ∃ rule, value.Breaks pattern rule := by
  constructor
  · intro hin
    obtain ⟨⟨_, message⟩, hbreach, rfl⟩ := List.mem_map.mp hin
    obtain ⟨value, rule, hvalue, hfirst, -⟩ := h.mem_iff.mp hbreach
    exact ⟨value, hvalue, rule, hfirst.broken⟩
  · rintro ⟨value, hvalue, hbreaks⟩
    obtain ⟨rule, hfirst⟩ := FieldValue.exists_firstBroken.mpr hbreaks
    have hbreach : (field, value.message field rule) ∈ broken :=
      h.mem_iff.mpr ⟨value, rule, hvalue, hfirst, rfl⟩
    exact List.mem_map_of_mem hbreach

theorem nil_iff (h : Listed pattern fields broken) :
    broken = [] ↔ ∀ field ∈ fields, ∀ rule, ¬ field.2.Breaks pattern rule := by
  constructor
  · rintro rfl field hin rule hbreaks
    exact List.not_mem_nil (h.mem_names_iff.mpr ⟨field.2, hin, rule, hbreaks⟩)
  · intro hkept
    refine List.eq_nil_iff_forall_not_mem.mpr fun breach hin => ?_
    obtain ⟨value, rule, hfield, hfirst, -⟩ := h.mem_iff.mp hin
    exact hkept _ hfield rule hfirst.broken

end Listed

namespace Validation

variable {pattern : Pattern}

theorem listed_id (pattern : Pattern) (field : String) (value : Uuid) :
    Listed pattern [(field, .id value)] (id field value) := by
  rw [id]
  split
  · rename_i hnil
    have hbroken : (FieldValue.id value).Breaks pattern .visible := Uuid.isNil_iff.mp hnil
    exact .broken (.visible hbroken) .nil
  · rename_i hgiven
    have hgiven : value ≠ .nil := mt Uuid.isNil_iff.mpr hgiven
    exact .kept (fun rule => by cases rule <;> simp [FieldValue.Breaks, hgiven]) .nil

theorem listed_text (pattern : Pattern) (field : String) (limit : Nat) (value : Text) :
    Listed pattern [(field, .text limit value)] (text field limit value) := by
  rw [text]
  split
  · rename_i hblank
    have hbroken : (FieldValue.text limit value).Breaks pattern .visible :=
      Text.isBlank_iff.mp hblank
    exact .broken (.visible hbroken) .nil
  · rename_i hvisible
    have hvisible : ¬ (FieldValue.text limit value).Breaks pattern .visible :=
      mt Text.isBlank_iff.mpr hvisible
    split
    · rename_i hlong
      exact .broken (.short hvisible hlong) .nil
    · rename_i hshort
      refine .kept (fun rule => ?_) .nil
      cases rule with
      | visible => exact hvisible
      | short => exact hshort
      | formed => exact not_false

theorem listed_description (pattern : Pattern) (value : Option Text) :
    Listed pattern [("description", .description value)] (description value) := by
  cases value with
  | none => exact .kept (fun rule => by cases rule <;> simp [FieldValue.Breaks]) .nil
  | some value =>
    rw [description]
    split
    · rename_i hlong
      have hbroken : (FieldValue.description (some value)).Breaks pattern .short :=
        ⟨value, rfl, hlong⟩
      have hfirst : (FieldValue.description (some value)).FirstBroken pattern .short :=
        .short not_false hbroken
      exact .broken hfirst .nil
    · rename_i hshort
      refine .kept (fun rule => ?_) .nil
      cases rule with
      | visible => exact not_false
      | short =>
        rintro ⟨text, hin, hlong⟩
        cases hin
        exact hshort hlong
      | formed => exact not_false

theorem listed_action (pattern : Pattern) (field : String) (action : Text) :
    Listed pattern [(field, .action action)]
      ((actionMessage? pattern action).toList.map fun message => (field, message)) := by
  rw [actionMessage?]
  split
  · rename_i hblank
    have hbroken : (FieldValue.action action).Breaks pattern .visible := Text.isBlank_iff.mp hblank
    exact .broken (.visible hbroken) .nil
  · rename_i hvisible
    have hvisible : ¬ (FieldValue.action action).Breaks pattern .visible :=
      mt Text.isBlank_iff.mpr hvisible
    split
    · rename_i hlong
      exact .broken (.short hvisible hlong) .nil
    · rename_i hshort
      have hshort : ¬ (FieldValue.action action).Breaks pattern .short := hshort
      split
      · rename_i haccepted
        refine .kept (fun rule => ?_) .nil
        cases rule with
        | visible => exact hvisible
        | short => exact hshort
        | formed => exact not_not_intro (Pattern.accepts_iff.mp haccepted)
      · rename_i hrefused
        have hbroken : (FieldValue.action action).Breaks pattern .formed :=
          mt Pattern.accepts_iff.mpr hrefused
        exact .broken (.formed hvisible hshort hbroken) .nil

theorem listed_actions (pattern : Pattern) (index : Nat) (actions : List Text) :
    Listed pattern (Request.actionFields index actions) (actionsFrom pattern index actions) := by
  induction actions generalizing index with
  | nil => exact .nil
  | cons action rest ih =>
    rw [Request.actionFields, List.zipIdx_cons, List.map_cons, actionsFrom]
    exact (listed_action pattern (Request.actionField index) action).append (ih (index + 1))

theorem breaches_listed (pattern : Pattern) (request : Request) :
    Listed pattern request.fields (breaches pattern request) := by
  cases request with
  | createRole command =>
    exact (((listed_text pattern "name" nameLimit command.name).append
      (listed_description pattern command.description)).append
      (listed_id pattern "scopeId" command.scope.id)).append
      (listed_actions pattern 0 command.permissions)
  | updateRole command =>
    exact (((listed_id pattern "id" command.id).append
      (listed_text pattern "name" nameLimit command.name)).append
      (listed_description pattern command.description)).append
      (listed_actions pattern 0 command.permissions)
  | assignRole command =>
    rw [Request.fields_eq_plainFields rfl]
    exact (((listed_id pattern "roleId" command.role).append
      (listed_id pattern "userId" command.user)).append
      (listed_id pattern "scopeId" command.scope.id)).append
      (listed_id pattern "assignedBy" command.assignedBy)
  | revokeRole command =>
    rw [Request.fields_eq_plainFields rfl]
    exact ((listed_id pattern "roleId" command.role).append
      (listed_id pattern "userId" command.user)).append
      (listed_id pattern "scopeId" command.scopeId)
  | checkPermission query =>
    rw [Request.fields_eq_plainFields rfl]
    exact ((listed_id pattern "userId" query.user).append
      (listed_id pattern "scopeId" query.scopeId)).append
      (listed_text pattern "permission" permissionLimit query.permission)
  | userPermissions query =>
    rw [Request.fields_eq_plainFields rfl]
    exact (listed_id pattern "userId" query.user).append (listed_id pattern "scopeId" query.scopeId)
  | deleteRole id => exact .nil
  | getRole id => exact .nil
  | listRoles scope => exact .nil

end Validation

/-- What the validators of a request's type report of it. Every field has a name of its own. The
request is refused just if a field breaks a rule, and then the report names exactly the fields that
do, in their order, each with one message: that of the rule that it breaks first. An action is
reported at its place in the list, just if it is blank, too long or not matched by the pattern. -/
theorem validation_reports_broken_rules (pattern : Pattern) (request : Request) :
    (request.fields.map Prod.fst).Nodup ∧
      ∃ errors,
        Validation.check (Validation.validators pattern request.type) request =
          (if errors = [] then .ok () else .error (.invalid errors)) ∧
        (errors = [] ↔ ∀ field ∈ request.fields, ∀ rule, ¬ field.2.Breaks pattern rule) ∧
        (∀ field, field ∈ errors.map Prod.fst ↔
          ∃ value, (field, value) ∈ request.fields ∧ ∃ rule, value.Breaks pattern rule) ∧
        (errors.map Prod.fst).Sublist (request.fields.map Prod.fst) ∧
        (∀ field messages, (field, messages) ∈ errors ↔
          ∃ value rule, (field, value) ∈ request.fields ∧ value.FirstBroken pattern rule ∧
            messages = [value.message field rule]) ∧
        ∀ index, Request.actionField index ∈ errors.map Prod.fst ↔
          ∃ action, request.permissions[index]? = some action ∧
            (Text.Blank action ∨ 200 < action.length ∨ ¬ pattern.Matches action.points) := by
  have hlisted := Validation.breaches_listed pattern request
  have hgroup := Validation.group_singles (hlisted.sublist.nodup request.fields_nodup)
  have hnames : (Validation.group (Validation.breaches pattern request)).map Prod.fst =
      (Validation.breaches pattern request).map Prod.fst := by
    rw [hgroup, List.map_map]
    rfl
  refine ⟨request.fields_nodup, Validation.group (Validation.breaches pattern request), ?_, ?_, ?_,
    ?_, ?_, ?_⟩
  · rw [Validation.check_eq, Service.validators_breaches, hgroup]
    simp only [List.map_eq_nil_iff]
  · rw [hgroup, List.map_eq_nil_iff, hlisted.nil_iff]
  · intro field
    rw [hnames, hlisted.mem_names_iff]
  · rw [hnames]
    exact hlisted.sublist
  · intro field messages
    rw [hgroup, List.mem_map]
    constructor
    · rintro ⟨⟨_, message⟩, hin, heq⟩
      obtain ⟨rfl, rfl⟩ := Prod.mk.inj heq
      obtain ⟨value, rule, hfield, hfirst, hmessage⟩ := hlisted.mem_iff.mp hin
      exact ⟨value, rule, hfield, hfirst, congrArg ([·]) hmessage⟩
    · rintro ⟨value, rule, hfield, hfirst, rfl⟩
      exact ⟨(field, value.message field rule),
        hlisted.mem_iff.mpr ⟨value, rule, hfield, hfirst, rfl⟩,
        rfl⟩
  · intro index
    rw [hnames, hlisted.mem_names_iff]
    constructor
    · rintro ⟨value, hvalue, hbreaks⟩
      obtain ⟨action, hat, rfl⟩ := Request.mem_fields_actionField.mp hvalue
      exact ⟨action, hat, FieldValue.action_breaks.mp hbreaks⟩
    · rintro ⟨action, hat, hbroken⟩
      exact ⟨_, Request.mem_fields_actionField.mpr ⟨action, hat, rfl⟩,
        FieldValue.action_breaks.mpr hbroken⟩

end Rbac
