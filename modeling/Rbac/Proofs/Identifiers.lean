import Rbac.Http.Route
import Rbac.Payload
import Rbac.Proofs.Delivery
import Rbac.Proofs.Numerals

namespace Rbac

namespace Uuid

theorem removeAll_eq_self {first : Char} {rest text : List Char} (h : first ∉ text) :
    removeAll (first :: rest) 0 text = text := by
  induction text with
  | nil => rfl
  | cons c text ih =>
    obtain ⟨hc, htext⟩ := not_or.mp (mt List.mem_cons.mpr h)
    simp [removeAll, hc, ih htext]

def withoutNames (text : List Char) : List Char :=
  removeAll "uuid:".toList 0 (removeAll "urn:".toList 0 text)

theorem withoutNames_eq_self {text : List Char} (h : 'u' ∉ text) : withoutNames text = text := by
  have hurn : removeAll "urn:".toList 0 text = text := removeAll_eq_self h
  rw [withoutNames, hurn]
  exact removeAll_eq_self h

theorem withoutNames_urnMark {text : List Char} (h : 'u' ∉ text) :
    withoutNames (urnMark ++ text) = text := by
  have hurn : "urn:".toList = ['u', 'r', 'n', ':'] := rfl
  have huuid : "uuid:".toList = ['u', 'u', 'i', 'd', ':'] := rfl
  have hmark : urnMark = ['u', 'r', 'n', ':', 'u', 'u', 'i', 'd', ':'] := rfl
  have hkept : ∀ rest, removeAll ('u' :: rest) 0 text = text := fun rest => removeAll_eq_self h
  rw [withoutNames, hurn, huuid, hmark]
  simp [removeAll, hkept]

theorem isBrace_iff {c : Char} : isBrace c = true ↔ c = '{' ∨ c = '}' := by
  simp [isBrace, ← Char.toNat_inj]

theorem undecorated_plain {digits text : List Char} (hmarks : ∀ c ∈ digits, c ∉ Text.digitMarks)
    (h : Plain digits text) : undecorated text = digits := by
  have hnot : ∀ c ∈ Text.digitMarks, c ∉ digits := fun c hc hd => hmarks c hd hc
  have hbrace : ∀ c, c = '-' ∨ c ∈ digits → isBrace c = false := by
    intro c hc
    rw [← Bool.not_eq_true, isBrace_iff]
    rintro (rfl | rfl)
    · exact hc.elim (by decide) (hnot '{' (by decide))
    · exact hc.elim (by decide) (hnot '}' (by decide))
  have hu : 'u' ∉ group digits := fun h => (mem_group h).elim (by decide) (hnot 'u' (by decide))
  have htrimmed : Text.trimBy isBrace (group digits) = group digits :=
    Text.trimBy_eq_self fun c hc => hbrace c (mem_group hc)
  have hungrouped : (group digits).filter (· != '-') = digits := filter_group (hnot '-' (by decide))
  change (Text.trimBy isBrace (withoutNames text)).filter (· != '-') = digits
  cases h with
  | alone =>
    rw [withoutNames_eq_self (hnot 'u' (by decide)),
      Text.trimBy_eq_self fun c hc => hbrace c (.inr hc)]
    refine List.filter_eq_self.mpr fun c hc => ?_
    simpa using fun he : c = '-' => hnot '-' (by decide) (he ▸ hc)
  | grouped => rw [withoutNames_eq_self hu, htrimmed, hungrouped]
  | braced =>
    have hbraced : 'u' ∉ '{' :: (group digits ++ ['}']) := by simpa using hu
    have hinside : Text.trimBy isBrace ('{' :: (group digits ++ ['}'])) = group digits :=
      Text.trimBy_append ['{'] ['}'] (by simp [isBrace]) (fun c hc => hbrace c (mem_group hc))
        (by simp [isBrace])
    rw [withoutNames_eq_self hbraced, hinside, hungrouped]
  | named => rw [withoutNames_urnMark hu, htrimmed, hungrouped]

/-- The number that a lenient spelling stands for, before it is asked whether there is such an id.
-/
def lenientValue? (text : String) : Option Int :=
  let rest := undecorated text.toList
  if rest.length = 32 then Number.Integer.read? 16 rest else none

/-- Whatever the lenient grammar takes for a number is the number of an id. -/
theorem lenientValue_bounded {text : String} {value : Int} (h : lenientValue? text = some value) :
    ∃ n : Nat, value = n ∧ n < 2 ^ 128 := by
  simp only [lenientValue?] at h
  split at h
  · rename_i hlength
    have hsign : '-' ∉ undecorated text.toList := by
      unfold undecorated
      simp
    obtain ⟨n, hvalue, hn⟩ := Number.Integer.read_bounded hsign h
    rw [hlength] at hn
    exact ⟨n, hvalue, hn⟩
  · cases h

theorem readLenient?_iff {text : String} {id : Uuid} :
    readLenient? text = some id ↔ lenientValue? text = some (id.value : Int) := by
  by_cases hlength : (undecorated text.toList).length = 32
  · have hvalue : lenientValue? text = Number.Integer.read? 16 (undecorated text.toList) :=
      if_pos hlength
    unfold readLenient? readLenientChars?
    rw [if_pos (beq_iff_eq.mpr hlength), ← hvalue]
    cases hread : lenientValue? text with
    | none => simp
    | some value =>
      obtain ⟨n, rfl, hn⟩ := lenientValue_bounded hread
      have hid : ofNat? n = some ⟨n, hn⟩ := dif_pos hn
      rw [Option.some.injEq, Int.natCast_inj]
      refine (Eq.congr_left hid).trans ?_
      rw [Option.some.injEq]
      exact ⟨congrArg value, fun h => by cases id; cases h; rfl⟩
  · simp [readLenient?, readLenientChars?, lenientValue?, hlength]

theorem lenientValue_plain {text : String} {id : Uuid} (h : SpelledPlainly text id) :
    lenientValue? text = some (id.value : Int) := by
  obtain ⟨digits, hlength, hid, hplain⟩ := h
  have hdigits : undecorated text.toList = digits := undecorated_plain (ofHex_notMark hid) hplain
  obtain ⟨values, hvalues, hvalue⟩ := Option.bind_eq_some_iff.mp hid
  have hnumber : Number.Integer.ofDigits 16 values = id.value := by
    unfold ofNat? at hvalue
    split at hvalue
    · cases hvalue
      rfl
    · cases hvalue
  have hne : digits ≠ [] := by
    rintro rfl
    cases hlength
  simp only [lenientValue?, hdigits]
  rw [if_pos hlength, Number.Integer.read_hex hne hvalues, hnumber]
  rfl

theorem field_iff {place : String} {payload : Json} {id : Uuid} :
    Payload.id place payload = .ok id ↔
      ∃ text : String, payload = .str text ∧ SpelledPlainly text id := by
  constructor
  · intro h
    cases payload with
    | str value =>
      simp only [Payload.id] at h
      split at h
      · cases h
      · rename_i text hstring
        refine ⟨text, congrArg Json.str (Text.string?_eq_some.mp hstring), readPlain?_iff.mp ?_⟩
        cases hread : readPlain? text with
        | none => simp [hread] at h
        | some read =>
          simp only [hread, Checked.ok.injEq] at h
          rw [h]
    | _ => cases h
  · rintro ⟨text, rfl, hplain⟩
    simp [Payload.id, readPlain?_iff.mpr hplain]

def paths (text : String) : List String :=
  ["/api/v1/roles/" ++ text, "/api/v1/roles/" ++ text ++ "/assignments",
   "/api/v1/users/" ++ text ++ "/permissions"]

theorem paths_named {text : String} {id : Uuid} (hslash : '/' ∉ text.toList)
    (hread : readLenient? text = some id) :
    (paths text).map Http.Resource.ofPath? =
      [some (.role id), some (.assignments id), some (.userPermissions id)] := by
  have hlast := Text.splitOn_eq_singleton hslash
  have hfirst := Text.splitOn_append hslash
  simp [paths, Http.Resource.ofPath?, Http.Resource.segments, Text.splitOn, hlast, hfirst,
    Http.Resource.ofSegments?, hread]

end Uuid

/-- An id means the same wherever it is read. What a field of a payload takes is plainly spelled,
and the lenient grammar of paths and of the actor takes every plain spelling for the same id. The
canonical text of whatever is read is read back by both. And whatever the lenient grammar takes for
a number is the number of an id: it lies between zero and the end of the range, so it is read. -/
theorem ids_read_alike :
    (∀ place payload id, Payload.id place payload = .ok id ↔
      ∃ text : String, payload = .str text ∧ Uuid.SpelledPlainly text id) ∧
    (∀ text id, Uuid.SpelledPlainly text id →
      Uuid.readLenient? text = some id ∧
      (Uuid.paths text).map Http.Resource.ofPath? =
        [some (.role id), some (.assignments id), some (.userPermissions id)] ∧
      ∀ correlation, (Context.mk correlation (.str text)).actorId? = .ok (some id)) ∧
    (∀ id : Uuid, Uuid.SpelledPlainly id.text id ∧ Uuid.readPlain? id.text = some id ∧
      Uuid.readLenient? id.text = some id) ∧
    (∀ text id, Uuid.readLenient? text = some id ↔
      Uuid.lenientValue? text = some (id.value : Int)) ∧
    ∀ text value, Uuid.lenientValue? text = some value →
      0 ≤ value ∧ value.toNat < 2 ^ 128 ∧ (Uuid.readLenient? text).isSome = true := by
  have hlenient : ∀ {text id}, Uuid.SpelledPlainly text id → Uuid.readLenient? text = some id :=
    fun h => Uuid.readLenient?_iff.mpr (Uuid.lenientValue_plain h)
  refine ⟨fun _ _ _ => Uuid.field_iff, ?_, ?_, fun _ _ => Uuid.readLenient?_iff, ?_⟩
  · intro text id hplain
    refine ⟨hlenient hplain, Uuid.paths_named hplain.chars.1 (hlenient hplain), ?_⟩
    intro correlation
    rw [Context.actorId?_str, Uuid.ofText?, Text.string?_ofString, Option.bind_some,
      hlenient hplain]
  · intro id
    have hplain : Uuid.SpelledPlainly id.text id := Uuid.readPlain?_iff.mp id.readPlain?_text
    exact ⟨hplain, id.readPlain?_text, hlenient hplain⟩
  · intro text value hvalue
    obtain ⟨n, rfl, hn⟩ := Uuid.lenientValue_bounded hvalue
    have hread : Uuid.readLenient? text = some ⟨n, hn⟩ := Uuid.readLenient?_iff.mpr hvalue
    exact ⟨Int.natCast_nonneg n, by omega, by rw [hread]; rfl⟩

def bracedText : String := "\x7b0000000A-0000-0000-0000-00000000000b\x7d"

/-- Two decorations the lenient grammar takes that the plain one does not: names and braces in any
number, then a blank, a mark of the base, an underscore, and a digit of another script. -/
def ornateText : String := "urn:urn:uuid:\x7b\x7b 0x_-00000000000000000000000000_\u0663\x7d"

theorem ids_read_alike_braced :
    let id := Uuid.ofNat (10 * 16 ^ 24 + 11)
    Uuid.SpelledPlainly bracedText id ∧ Uuid.readLenient? bracedText = some id ∧
      Uuid.lenientValue? ornateText = some 3 ∧ (Uuid.readLenient? ornateText).isSome = true := by
  intro id
  have hplain : Uuid.SpelledPlainly bracedText id := Uuid.readPlain?_iff.mp (by decide +kernel)
  have hvalue : Uuid.lenientValue? ornateText = some 3 := by decide +kernel
  obtain ⟨_, hspelled, _, _, hranges⟩ := ids_read_alike
  exact ⟨hplain, (hspelled _ _ hplain).1, hvalue, (hranges _ _ hvalue).2.2⟩

end Rbac
