import Mathlib.Computability.Language
import Mathlib.Logic.Relation
import Rbac.Pattern.Basic

namespace Rbac.Pattern

open scoped Computability

/-- Whether a pattern leads from one place to another. -/
def Leads : Pattern → Place → Place → Prop
  | .empty, before, after => after = before
  | .one set, before, after =>
    ∃ c, set.has c = true ∧ before.rest = c :: after.rest ∧ after.first = false
  | .seq first second, before, after =>
    ∃ between, first.Leads before between ∧ second.Leads between after
  | .alt left right, before, after => left.Leads before after ∨ right.Leads before after
  | .star _ body, before, after => Relation.ReflTransGen body.Leads before after
  | .atomic body, before, after => body.run some before = some after
  | .atStart, before, after => before.first = true ∧ after = before
  | .atEnd, before, after => (before.rest = [] ∨ before.rest = [.char '\n']) ∧ after = before
  | .atVeryEnd, before, after => before.rest = [] ∧ after = before

/-- Whether a pattern matches a whole text: it leads from its start to its end. -/
def Matches (pattern : Pattern) (text : List CodePoint) : Prop :=
  ∃ last, pattern.Leads ⟨true, text⟩ last ∧ last.rest = []

theorem prefer_eq_some {swapped : Bool} {first second : Option Place} {last : Place}
    (h : prefer swapped first second = some last) : first = some last ∨ second = some last := by
  cases swapped <;> cases first <;> cases second <;> simp_all [prefer]

@[simp] theorem prefer_isSome {swapped : Bool} {first second : Option Place} :
    (prefer swapped first second).isSome = (first.isSome || second.isSome) := by
  cases swapped <;> cases first <;> cases second <;> rfl

theorem leads_of_iterate {lazy : Bool} {body : Pattern} {step : Search → Search} {next : Search}
    (hstep : ∀ next place last, step next place = some last →
      ∃ after, body.Leads place after ∧ next after = some last)
    {fuel : Nat} {place last : Place} (h : iterate lazy step next fuel place = some last) :
    ∃ after, (star lazy body).Leads place after ∧ next after = some last := by
  induction fuel generalizing place with
  | zero => exact ⟨_, .refl, h⟩
  | succ fuel ih =>
    rcases prefer_eq_some h with hmore | hdone
    · obtain ⟨between, hfirst, hbetween⟩ := hstep _ _ _ hmore
      split at hbetween
      · obtain ⟨after, hafter, hnext⟩ := ih hbetween
        exact ⟨after, .head hfirst hafter, hnext⟩
      · exact ⟨between, .single hfirst, hbetween⟩
    · exact ⟨_, .refl, hdone⟩

theorem leads_of_run {pattern : Pattern} {next : Search} {place last : Place}
    (h : pattern.run next place = some last) :
    ∃ after, pattern.Leads place after ∧ next after = some last := by
  induction pattern generalizing next place last with
  | empty => exact ⟨place, rfl, h⟩
  | one set =>
    obtain ⟨first, text⟩ := place
    cases text with
    | nil => cases h
    | cons c rest =>
      obtain ⟨hc, hnext⟩ := Option.ite_none_right_eq_some.mp h
      exact ⟨⟨false, rest⟩, ⟨c, hc, rfl, rfl⟩, hnext⟩
  | seq first second ihf ihs =>
    obtain ⟨between, hfirst, hbetween⟩ := ihf h
    obtain ⟨after, hsecond, hnext⟩ := ihs hbetween
    exact ⟨after, ⟨between, hfirst, hsecond⟩, hnext⟩
  | alt left right ihl ihr =>
    rcases Option.or_eq_some_iff.mp h with hleft | ⟨-, hright⟩
    · obtain ⟨after, hafter, hnext⟩ := ihl hleft
      exact ⟨after, .inl hafter, hnext⟩
    · obtain ⟨after, hafter, hnext⟩ := ihr hright
      exact ⟨after, .inr hafter, hnext⟩
  | star lazy body ih => exact leads_of_iterate (fun _ _ _ => ih) h
  | atomic body => exact Option.bind_eq_some_iff.mp h
  | atStart =>
    obtain ⟨hfirst, hnext⟩ := Option.ite_none_right_eq_some.mp h
    exact ⟨place, ⟨hfirst, rfl⟩, hnext⟩
  | atEnd =>
    obtain ⟨hend, hnext⟩ := Option.ite_none_right_eq_some.mp h
    exact ⟨place, ⟨by simpa using hend, rfl⟩, hnext⟩
  | atVeryEnd =>
    obtain ⟨hend, hnext⟩ := Option.ite_none_right_eq_some.mp h
    exact ⟨place, ⟨by simpa using hend, rfl⟩, hnext⟩

theorem Leads.shorter {pattern : Pattern} {before after : Place}
    (h : pattern.Leads before after) :
    after = before ∨ after.rest.length < before.rest.length := by
  induction pattern generalizing before after with
  | empty => exact .inl h
  | one set =>
    obtain ⟨c, -, hrest, -⟩ := h
    right
    rw [hrest]
    exact Nat.lt_succ_self _
  | seq first second ihf ihs =>
    obtain ⟨between, hfirst, hsecond⟩ := h
    rcases ihf hfirst with rfl | hshorter
    · exact ihs hsecond
    · rcases ihs hsecond with rfl | hthen
      · exact .inr hshorter
      · exact .inr (hthen.trans hshorter)
  | alt left right ihl ihr =>
    rcases h with h | h
    · exact ihl h
    · exact ihr h
  | star _ body ih =>
    induction h with
    | refl => exact .inl rfl
    | tail _ hlast ihh =>
      rcases ih hlast with rfl | hshorter
      · exact ihh
      · rcases ihh with rfl | hthen
        · exact .inr hshorter
        · exact .inr (hshorter.trans hthen)
  | atomic body ih =>
    obtain ⟨found, hfound, heq⟩ := leads_of_run h
    obtain rfl := Option.some.inj heq
    exact ih hfound
  | atStart => exact .inl h.2
  | atEnd => exact .inl h.2
  | atVeryEnd => exact .inl h.2

/-- A repetition is found: a round that takes nothing leads nowhere new. -/
theorem iterate_of_leads {lazy : Bool} {body : Pattern} {step : Search → Search} {next : Search}
    (hstep : ∀ next place after, body.Leads place after → (next after).isSome = true →
      (step next place).isSome = true)
    {before after : Place} (h : (star lazy body).Leads before after)
    (hnext : (next after).isSome = true) {fuel : Nat} (hfuel : before.rest.length ≤ fuel) :
    (iterate lazy step next fuel before).isSome = true := by
  induction h using Relation.ReflTransGen.head_induction_on generalizing fuel with
  | refl =>
    cases fuel with
    | zero => exact hnext
    | succ fuel => simp [iterate, hnext]
  | @head before between hfirst _ ih =>
    rcases hfirst.shorter with rfl | hshorter
    · exact ih hfuel
    · obtain ⟨fuel, rfl⟩ : ∃ fewer, fuel = fewer + 1 := ⟨fuel - 1, by omega⟩
      rw [iterate, prefer_isSome, Bool.or_eq_true_iff]
      left
      apply hstep _ _ _ hfirst
      rw [if_pos hshorter]
      exact ih (by omega)

/-- The search finds a way exactly when the pattern leads to a place from which it goes on. -/
theorem run_iff {pattern : Pattern} {next : Search} {place : Place} :
    (pattern.run next place).isSome = true ↔
      ∃ after, pattern.Leads place after ∧ (next after).isSome = true := by
  constructor
  · intro h
    obtain ⟨last, hlast⟩ := Option.isSome_iff_exists.mp h
    obtain ⟨after, hafter, hnext⟩ := leads_of_run hlast
    exact ⟨after, hafter, Option.isSome_iff_exists.mpr ⟨last, hnext⟩⟩
  rintro ⟨after, hafter, hnext⟩
  induction pattern generalizing next place after with
  | empty =>
    obtain rfl : after = place := hafter
    exact hnext
  | one set =>
    obtain ⟨c, hc, hrest, hfirst⟩ := hafter
    obtain ⟨first, rest⟩ := after
    obtain rfl : first = false := hfirst
    simp [run, hrest, hc, hnext]
  | seq first second ihf ihs =>
    obtain ⟨between, hfirst, hsecond⟩ := hafter
    exact ihf between hfirst (ihs after hsecond hnext)
  | alt left right ihl ihr =>
    rw [run, Option.isSome_or, Bool.or_eq_true_iff]
    exact hafter.imp (ihl after · hnext) (ihr after · hnext)
  | star lazy body ih =>
    exact iterate_of_leads (fun _ _ between hbody hthen => ih between hbody hthen) hafter hnext
      le_rfl
  | atomic body =>
    have hfound : body.run some place = some after := hafter
    rw [run, hfound, Option.bind_some]
    exact hnext
  | atStart =>
    obtain ⟨hfirst, rfl⟩ := hafter
    rw [run, if_pos hfirst]
    exact hnext
  | atEnd =>
    obtain ⟨hend, rfl⟩ := hafter
    rw [run, if_pos (by simpa using hend)]
    exact hnext
  | atVeryEnd =>
    obtain ⟨hend, rfl⟩ := hafter
    rw [run, if_pos (by simpa using hend)]
    exact hnext

theorem accepts_iff {pattern : Pattern} {text : Text} :
    pattern.accepts text = true ↔ pattern.Matches text.points := by
  have hstop : ∀ place, (stop place).isSome = true ↔ place.rest = [] := by simp [stop]
  simp only [accepts, run_iff, Matches, hstop]

/-- Whether a pattern leads over the words of a language and over nothing else, wherever it
starts. -/
def Spells (pattern : Pattern) (words : Language CodePoint) : Prop :=
  ∀ before rest, (∃ first, pattern.Leads before ⟨first, rest⟩) ↔
    ∃ word ∈ words, before.rest = word ++ rest

def letters (set : CharSet) : Language CodePoint :=
  {word | ∃ c, set.has c = true ∧ word = [c]}

theorem mem_kstar_letters {set : CharSet} {word : List CodePoint} :
    word ∈ (letters set)∗ ↔ ∀ c ∈ word, set.has c = true := by
  constructor
  · intro h
    obtain ⟨pieces, rfl, hpieces⟩ := Language.mem_kstar.mp h
    intro c hc
    obtain ⟨piece, hpiece, hmem⟩ := List.mem_flatten.mp hc
    obtain ⟨only, honly, rfl⟩ := hpieces piece hpiece
    obtain rfl := List.mem_singleton.mp hmem
    exact honly
  · intro h
    refine Language.mem_kstar.mpr ⟨word.map fun c => [c], (List.flatMap_singleton' word).symm, ?_⟩
    intro piece hpiece
    obtain ⟨c, hc, rfl⟩ := List.mem_map.mp hpiece
    exact ⟨c, h c hc, rfl⟩

theorem spells_one (set : CharSet) : Spells (.one set) (letters set) := by
  intro before rest
  constructor
  · rintro ⟨first, c, hc, hrest, -⟩
    exact ⟨[c], ⟨c, hc, rfl⟩, hrest⟩
  · rintro ⟨_, ⟨c, hc, rfl⟩, hrest⟩
    exact ⟨false, c, hc, hrest, rfl⟩

theorem Spells.seq {first second : Pattern} {front back : Language CodePoint}
    (hf : first.Spells front)
    (hs : second.Spells back) : Spells (.seq first second) (front * back) := by
  intro before rest
  constructor
  · rintro ⟨flag, between, hfirst, hsecond⟩
    obtain ⟨u, hu, hbefore⟩ := (hf before between.rest).mp ⟨between.first, hfirst⟩
    obtain ⟨v, hv, hbetween⟩ := (hs between rest).mp ⟨flag, hsecond⟩
    exact ⟨u ++ v, Language.append_mem_mul hu hv, by rw [hbefore, hbetween, List.append_assoc]⟩
  · rintro ⟨_, ⟨u, hu, v, hv, rfl⟩, hbefore⟩
    obtain ⟨middle, hfirst⟩ := (hf before (v ++ rest)).mpr ⟨u, hu, by simpa using hbefore⟩
    obtain ⟨flag, hsecond⟩ := (hs ⟨middle, v ++ rest⟩ rest).mpr ⟨v, hv, rfl⟩
    exact ⟨flag, _, hfirst, hsecond⟩

theorem Spells.star (lazy : Bool) {body : Pattern} {words : Language CodePoint}
    (h : body.Spells words) : Spells (.star lazy body) words∗ := by
  intro before rest
  constructor
  · rintro ⟨flag, hleads⟩
    generalize hafter : Place.mk flag rest = after at hleads
    induction hleads using Relation.ReflTransGen.head_induction_on with
    | refl => exact ⟨[], Language.nil_mem_kstar _, by rw [← hafter, List.nil_append]⟩
    | @head before between hfirst _ ih =>
      obtain ⟨piece, hpiece, hbefore⟩ := (h before between.rest).mp ⟨between.first, hfirst⟩
      obtain ⟨word, hword, hbetween⟩ := ih
      obtain ⟨pieces, rfl, hpieces⟩ := Language.mem_kstar.mp hword
      refine ⟨(piece :: pieces).flatten, ?_, by simp [hbefore, hbetween]⟩
      exact Language.join_mem_kstar (List.forall_mem_cons.mpr ⟨hpiece, hpieces⟩)
  · rintro ⟨word, hword, hbefore⟩
    obtain ⟨pieces, rfl, hpieces⟩ := Language.mem_kstar.mp hword
    clear hword
    induction pieces generalizing before with
    | nil =>
      obtain ⟨flag, text⟩ := before
      obtain rfl : text = rest := hbefore
      exact ⟨flag, .refl⟩
    | cons piece pieces ih =>
      obtain ⟨hpiece, hmore⟩ := List.forall_mem_cons.mp hpieces
      have hsplit : before.rest = piece ++ (pieces.flatten ++ rest) := by simpa using hbefore
      obtain ⟨middle, hfirst⟩ := (h before _).mpr ⟨piece, hpiece, hsplit⟩
      obtain ⟨flag, hthen⟩ := ih ⟨middle, pieces.flatten ++ rest⟩ hmore rfl
      exact ⟨flag, .head hfirst hthen⟩

/-- Whether a pattern leads to the end over the words of a language and over nothing else, wherever
it starts. -/
def Ends (pattern : Pattern) (words : Language CodePoint) : Prop :=
  ∀ before, (∃ last, pattern.Leads before last ∧ last.rest = []) ↔ before.rest ∈ words

theorem ends_atEnd : Ends .atEnd 1 := by
  intro before
  rw [Language.mem_one]
  constructor
  · rintro ⟨_, ⟨-, rfl⟩, hend⟩
    exact hend
  · intro hend
    exact ⟨before, ⟨.inl hend, rfl⟩, hend⟩

theorem Spells.ends_seq {first second : Pattern} {front back : Language CodePoint}
    (hf : first.Spells front) (hs : second.Ends back) :
    Ends (.seq first second) (front * back) := by
  intro before
  constructor
  · rintro ⟨last, ⟨between, hfirst, hsecond⟩, hend⟩
    obtain ⟨u, hu, hbefore⟩ := (hf before between.rest).mp ⟨between.first, hfirst⟩
    rw [hbefore]
    exact Language.append_mem_mul hu ((hs between).mp ⟨last, hsecond, hend⟩)
  · rintro ⟨u, hu, v, hv, hbefore⟩
    obtain ⟨middle, hfirst⟩ := (hf before v).mpr ⟨u, hu, hbefore.symm⟩
    obtain ⟨last, hsecond, hend⟩ := (hs ⟨middle, v⟩).mpr hv
    exact ⟨last, ⟨_, hfirst, hsecond⟩, hend⟩

theorem Ends.matches_atStart {pattern : Pattern} {words : Language CodePoint}
    (h : pattern.Ends words)
    {text : List CodePoint} : Matches (.seq .atStart pattern) text ↔ text ∈ words := by
  rw [← h ⟨true, text⟩]
  constructor
  · rintro ⟨last, ⟨between, ⟨-, rfl⟩, hleads⟩, hend⟩
    exact ⟨last, hleads, hend⟩
  · rintro ⟨last, hleads, hend⟩
    exact ⟨last, ⟨_, ⟨rfl, rfl⟩, hleads⟩, hend⟩

end Rbac.Pattern
