import Rbac.Proofs.Json.Strings
import Rbac.Proofs.Matching
import Rbac.Proofs.Rules
import Rbac.Role

namespace Rbac

open scoped Computability

namespace CodePoint

def isLower (point : CodePoint) : Bool := point.char?.any Char.isLower

def isDigit (point : CodePoint) : Bool := point.char?.any Char.isDigit

theorem char_iff_value {holds : Char → Bool} {low high : Nat} (hhigh : high < 0xD800)
    (h : ∀ c, holds c = true ↔ low ≤ c.toNat ∧ c.toNat ≤ high) {point : CodePoint} :
    point.char?.any holds = true ↔ low ≤ point.value ∧ point.value ≤ high := by
  cases point with
  | char c => exact h c
  | half index =>
    have hvalue : (half index).value = 0xD800 + index := rfl
    simp only [char?, Option.any_none, Bool.false_eq_true, hvalue, false_iff]
    omega

theorem isLower_iff {point : CodePoint} :
    point.isLower = true ↔ 0x61 ≤ point.value ∧ point.value ≤ 0x7A := by
  refine char_iff_value (by decide) fun c => ?_
  have hlower : c.isLower = (decide (c.val ≥ 'a'.val) && decide (c.val ≤ 'z'.val)) := rfl
  simp [hlower, UInt32.le_iff_toNat_le, ← Char.toNat_val]

theorem isDigit_iff {point : CodePoint} :
    point.isDigit = true ↔ 0x30 ≤ point.value ∧ point.value ≤ 0x39 :=
  char_iff_value (by decide) fun _ => Char.isDigit_iff_toNat

theorem eq_iff_value {point only : CodePoint} :
    point = only ↔ only.value ≤ point.value ∧ point.value ≤ only.value :=
  ⟨fun h => by simp [h], fun h => value_injective (Nat.le_antisymm h.2 h.1)⟩

end CodePoint

theorem CharSet.has_iff {ranges : List (Nat × Nat)} {point : CodePoint} :
    (CharSet.mk false ranges).has point = true ↔
      ∃ range ∈ ranges, range.1 ≤ point.value ∧ point.value ≤ range.2 := by
  simp only [has, Bool.bne_false, List.any_eq_true, Bool.and_eq_true, decide_eq_true_eq]

/-- An ASCII letter of lower case, then any number of such letters, ASCII digits and underscores. -/
def IsSegment (text : List CodePoint) : Prop :=
  ∃ first rest, text = first :: rest ∧ first.isLower = true ∧
    ∀ c ∈ rest, c.isLower = true ∨ c.isDigit = true ∨ c = .char '_'

/-- One or more segments, each two joined by one point or one colon. -/
inductive IsActionName : List CodePoint → Prop where
  | segment {text : List CodePoint} : IsSegment text → IsActionName text
  | joined {text rest : List CodePoint} {mark : CodePoint} :
    IsSegment text → mark = .char '.' ∨ mark = .char ':' → IsActionName rest →
    IsActionName (text ++ mark :: rest)

namespace Pattern

def lowerSet : CharSet := ⟨false, [(0x61, 0x7A)]⟩
def wordSet : CharSet := ⟨false, [(0x61, 0x7A), (0x30, 0x39), (0x5F, 0x5F)]⟩
def markSet : CharSet := ⟨false, [(0x2E, 0x2E), (0x3A, 0x3A)]⟩

def default : Pattern :=
  .seq .atStart (.seq (.one lowerSet) (.seq (.star false (.one wordSet))
    (.seq (.star false (.seq (.one markSet) (.seq (.one lowerSet) (.star false (.one wordSet)))))
      .atEnd)))

theorem read?_default : read? Validation.defaultPatternText = some default := by
  decide +kernel

theorem lowerSet_has {c : CodePoint} : lowerSet.has c = true ↔ c.isLower = true := by
  rw [lowerSet, CharSet.has_iff, CodePoint.isLower_iff]
  simp

theorem wordSet_has {c : CodePoint} :
    wordSet.has c = true ↔ c.isLower = true ∨ c.isDigit = true ∨ c = .char '_' := by
  rw [wordSet, CharSet.has_iff, CodePoint.isLower_iff, CodePoint.isDigit_iff,
    CodePoint.eq_iff_value]
  simp [CodePoint.value]

theorem markSet_has {c : CodePoint} : markSet.has c = true ↔ c = .char '.' ∨ c = .char ':' := by
  rw [markSet, CharSet.has_iff, CodePoint.eq_iff_value, CodePoint.eq_iff_value]
  simp [CodePoint.value]

def segments : Language CodePoint := letters lowerSet * (letters wordSet)∗

theorem mem_segments {text : List CodePoint} : text ∈ segments ↔ IsSegment text := by
  rw [segments, Language.mem_mul]
  constructor
  · rintro ⟨_, ⟨first, hfirst, rfl⟩, rest, hrest, rfl⟩
    exact ⟨first, rest, rfl, lowerSet_has.mp hfirst,
      fun c hc => wordSet_has.mp (mem_kstar_letters.mp hrest c hc)⟩
  · rintro ⟨first, rest, rfl, hfirst, hrest⟩
    exact ⟨[first], ⟨first, lowerSet_has.mpr hfirst, rfl⟩, rest,
      mem_kstar_letters.mpr fun c hc => wordSet_has.mpr (hrest c hc), rfl⟩

theorem mem_names {text : List CodePoint} :
    text ∈ segments * (letters markSet * segments)∗ ↔ IsActionName text := by
  constructor
  · rw [Language.mem_mul]
    rintro ⟨segment, hsegment, more, hmore, rfl⟩
    obtain ⟨pieces, rfl, hpieces⟩ := Language.mem_kstar.mp hmore
    clear hmore
    induction pieces generalizing segment with
    | nil =>
      rw [List.flatten_nil, List.append_nil]
      exact .segment (mem_segments.mp hsegment)
    | cons piece pieces ih =>
      obtain ⟨hpiece, hrest⟩ := List.forall_mem_cons.mp hpieces
      obtain ⟨_, ⟨mark, hmark, rfl⟩, next, hnext, rfl⟩ := hpiece
      exact .joined (mem_segments.mp hsegment) (markSet_has.mp hmark) (ih next hnext hrest)
  · intro h
    induction h with
    | @segment text htext =>
      rw [← List.append_nil text]
      exact Language.append_mem_mul (mem_segments.mpr htext) (Language.nil_mem_kstar _)
    | @joined text rest mark htext hmark _ ih =>
      obtain ⟨next, hnext, more, hmore, rfl⟩ := ih
      obtain ⟨pieces, rfl, hpieces⟩ := Language.mem_kstar.mp hmore
      have hpiece : [mark] ++ next ∈ letters markSet * segments :=
        Language.append_mem_mul ⟨mark, markSet_has.mpr hmark, rfl⟩ hnext
      have hall := Language.join_mem_kstar (List.forall_mem_cons.mpr ⟨hpiece, hpieces⟩)
      have htext := Language.append_mem_mul (mem_segments.mpr htext) hall
      simpa using htext

theorem default_ends :
    Ends (.seq (.one lowerSet) (.seq (.star false (.one wordSet))
      (.seq (.star false (.seq (.one markSet) (.seq (.one lowerSet) (.star false (.one wordSet)))))
        .atEnd)))
      (segments * (letters markSet * segments)∗) := by
  have hletter := spells_one lowerSet
  have hword := (spells_one wordSet).star false
  have hmore := ((spells_one markSet).seq (hletter.seq hword)).star false
  have hends := hletter.ends_seq (hword.ends_seq (hmore.ends_seq ends_atEnd))
  rwa [mul_one, ← mul_assoc] at hends

/-- The default pattern matches what the grammar spells and nothing else. -/
theorem default_accepts_iff {action : Text} :
    default.accepts action = true ↔ IsActionName action.points := by
  rw [accepts_iff, default, default_ends.matches_atStart, mem_names]

end Pattern

instance (text : List CodePoint) : Decidable (IsActionName text) :=
  decidable_of_iff (Pattern.default.accepts ⟨text⟩ = true) Pattern.default_accepts_iff

theorem IsSegment.chars {text : List CodePoint} (h : IsSegment text) :
    ∀ c ∈ text, c.isLower = true ∨ c.isDigit = true ∨ c = .char '_' := by
  obtain ⟨first, rest, rfl, hfirst, hrest⟩ := h
  exact List.forall_mem_cons.mpr ⟨.inl hfirst, hrest⟩

namespace IsActionName

theorem chars {text : List CodePoint} (h : IsActionName text) :
    ∀ c ∈ text, (c.isLower = true ∨ c.isDigit = true ∨ c = .char '_') ∨ c = .char '.' ∨
      c = .char ':' := by
  induction h with
  | segment hsegment => exact fun c hc => .inl (hsegment.chars c hc)
  | joined hsegment hmark _ ih =>
    intro c hc
    rcases List.mem_append.mp hc with hbefore | hafter
    · exact .inl (hsegment.chars c hbefore)
    · rcases List.mem_cons.mp hafter with rfl | hafter
      · exact .inr hmark
      · exact ih c hafter

theorem starts_lower {text : List CodePoint} (h : IsActionName text) :
    ∃ first rest, text = first :: rest ∧ first.isLower = true := by
  cases h with
  | segment hsegment =>
    obtain ⟨first, rest, rfl, hfirst, -⟩ := hsegment
    exact ⟨first, rest, rfl, hfirst⟩
  | joined hsegment =>
    obtain ⟨first, rest, rfl, hfirst, -⟩ := hsegment
    exact ⟨first, _, rfl, hfirst⟩

theorem visible {action : Text} (h : IsActionName action.points) :
    Text.isBlank action = false := by
  obtain ⟨first, rest, htext, hfirst⟩ := h.starts_lower
  obtain ⟨hlow, hhigh⟩ := CodePoint.isLower_iff.mp hfirst
  have hmark : first.char?.any Text.isBlankChar = false := by
    cases first with
    | half => rfl
    | char c =>
      have hvalue : (CodePoint.char c).value = c.toNat := rfl
      rw [hvalue] at hlow hhigh
      simp [CodePoint.char?, Text.isBlankChar, Text.blankRanges]
      omega
  rw [Text.isBlank, htext, List.all_cons, hmark, Bool.false_and]

end IsActionName

namespace Validation

/-- With the default pattern an action has no message just if the grammar spells it and it is not
too long. -/
theorem message_none_iff_name {action : Text} :
    actionMessage? .default action = none ↔ action.length ≤ 200 ∧ IsActionName action.points := by
  rw [message_none_iff]
  constructor
  · rintro ⟨-, hshort, haccepted⟩
    exact ⟨hshort, Pattern.default_accepts_iff.mp haccepted⟩
  · rintro ⟨hshort, hname⟩
    exact ⟨hname.visible, hshort, Pattern.default_accepts_iff.mpr hname⟩

end Validation

theorem Permission.create_visible {action : Text} (h : Text.isBlank action = false) (role : Uuid)
    (moment : Instant) (supply : Supply) :
    (Permission.create role action moment).run supply =
      (.ok ⟨supply.next, role, action, moment⟩, supply.advance) := by
  simp [Permission.create, h]

/-- The default text is a pattern, and with it the validators take exactly the actions that the
grammar spells in at most 200 characters, each action of a list judged alone. All that an action
holds is lower-case ASCII letters, ASCII digits, underscores and the marks, so none is blank, and a
permission is made of each. -/
theorem default_takes_action_names :
    ∃ pattern, Pattern.read? Validation.defaultPatternText = some pattern ∧
      (∀ action, Validation.actionMessage? pattern action = none ↔
        action.length ≤ 200 ∧ IsActionName action.points) ∧
      (∀ actions, Validation.actions pattern actions = [] ↔
        ∀ action ∈ actions, action.length ≤ 200 ∧ IsActionName action.points) ∧
      ∀ action, Validation.actionMessage? pattern action = none →
        (∀ c ∈ action.points,
          (c.isLower = true ∨ c.isDigit = true ∨ c = .char '_') ∨ c = .char '.' ∨ c = .char ':') ∧
        Text.isBlank action = false ∧
        ∀ role moment supply, (Permission.create role action moment).run supply =
          (.ok ⟨supply.next, role, action, moment⟩, supply.advance) := by
  refine ⟨.default, Pattern.read?_default, fun action => Validation.message_none_iff_name, ?_, ?_⟩
  · intro actions
    rw [Validation.actions, Validation.actions_nil_iff]
    exact forall₂_congr fun action _ =>
      Validation.message_none_iff.symm.trans Validation.message_none_iff_name
  · intro action h
    obtain ⟨-, hname⟩ := Validation.message_none_iff_name.mp h
    exact ⟨hname.chars, hname.visible, Permission.create_visible hname.visible⟩

/-- A line feed at the end is not let through. -/
example : IsActionName (Text.ofString "doc_2:read.all").points ∧
    ¬ IsActionName (Text.ofString "doc_2:read.all\n").points := by
  decide +kernel

end Rbac
