import Rbac.Proofs.Json.Strings

namespace Rbac.Json

mutual

/-- Whether a value has the form in which it is read back: no numbers, no name twice in an object,
and no halves of a pair side by side. -/
def Readable : Json → Prop
  | .null | .bool _ => True
  | .num _ => False
  | .str value => value.Apart
  | .arr items => ReadableItems items
  | .obj members => (members.map Prod.fst).Nodup ∧ ReadableMembers members

def ReadableItems : List Json → Prop
  | [] => True
  | item :: items => item.Readable ∧ ReadableItems items

def ReadableMembers : List (Text × Json) → Prop
  | [] => True
  | (name, value) :: members => name.Apart ∧ value.Readable ∧ ReadableMembers members

end

mutual

/-- In how many arrays and objects a part of a value is at most nested. -/
def depth : Json → Nat
  | .arr items => itemsDepth items + 1
  | .obj members => membersDepth members + 1
  | _ => 0

def itemsDepth : List Json → Nat
  | [] => 0
  | item :: items => max item.depth (itemsDepth items)

def membersDepth : List (Text × Json) → Nat
  | [] => 0
  | (_, value) :: members => max value.depth (membersDepth members)

end

def itemsText : List Json → List Char
  | [] => [']']
  | item :: items => item.chars ++ itemsTail items

def membersText : List (Text × Json) → List Char
  | [] => ['\x7d']
  | (name, value) :: members =>
    writeStr name ++ ':' :: ' ' :: value.chars ++ membersTail members

theorem chars_arr (items : List Json) : (arr items).chars = '[' :: itemsText items := by
  cases items <;> rfl

theorem chars_obj (members : List (Text × Json)) :
    (obj members).chars = '\x7b' :: membersText members := by
  cases members <;> simp [chars, membersText]

theorem itemsTail_cons (item : Json) (items : List Json) :
    itemsTail (item :: items) = ',' :: ' ' :: itemsText (item :: items) := rfl

theorem membersTail_cons (member : Text × Json) (members : List (Text × Json)) :
    membersTail (member :: members) = ',' :: ' ' :: membersText (member :: members) := by
  simp [membersTail, membersText]

theorem put_of_new {name : Text} {value : Json} {known : List (Text × Json)}
    (h : name ∉ known.map Prod.fst) : put name value known = known ++ [(name, value)] := by
  induction known with
  | nil => rfl
  | cons member known ih =>
    obtain ⟨hfirst, hknown⟩ : ¬ name = member.1 ∧ name ∉ known.map Prod.fst := by simpa using h
    rw [put, if_neg (Ne.symm hfirst), ih hknown]
    rfl

theorem ofMembers_eq {members : List (Text × Json)} (h : (members.map Prod.fst).Nodup) :
    ofMembers members = .obj members := by
  have hput : ∀ known : List (Text × Json), ((known ++ members).map Prod.fst).Nodup →
      members.foldl (fun known member => put member.1 member.2 known) known =
        known ++ members := by
    clear h
    induction members with
    | nil => simp
    | cons member members ih =>
      intro known hnodup
      have hnew : member.1 ∉ known.map Prod.fst := by
        rw [List.map_append, List.map_cons, List.nodup_append] at hnodup
        exact fun hmem => hnodup.2.2 _ hmem _ List.mem_cons_self rfl
      have hsplit : known ++ member :: members = known ++ [member] ++ members := by simp
      rw [List.foldl_cons, put_of_new hnew, hsplit]
      exact ih _ (hsplit ▸ hnodup)
  exact congrArg Json.obj (hput [] h)

theorem chars_cons {value : Json} (h : value.Readable) :
    ∃ first rest, value.chars = first :: rest ∧ Reader.isGap first = false ∧ first ≠ ']' := by
  cases value with
  | null => exact ⟨_, _, rfl, by decide⟩
  | bool value => cases value <;> exact ⟨_, _, rfl, by decide⟩
  | num value => simp [Readable] at h
  | str value => exact ⟨_, _, rfl, by decide⟩
  | arr items => exact ⟨_, _, chars_arr items, by decide⟩
  | obj members => exact ⟨_, _, chars_obj members, by decide⟩

namespace Reader

@[simp] theorem skipGap_blank (text : List Char) : skipGap (' ' :: text) = skipGap text := rfl

theorem skipGap_cons {first : Char} (h : isGap first = false) (rest : List Char) :
    skipGap (first :: rest) = first :: rest := by
  simp [skipGap, h]

@[simp] theorem takeWord?_cons (c : Char) (rest : List Char) :
    takeWord? [c] (c :: rest) = some rest := by
  simp [takeWord?]

theorem value_str {text : Text} (h : text.Apart) (fuel depth : Nat) (rest : List Char) :
    value (fuel + 1) depth (writeStr text ++ rest) = .ok (.str text, rest) := by
  simp [value, writeStr, string?_writeStr h, need]

theorem value_arr {first : Char} (hgap : isGap first = false) (hfirst : first ≠ ']')
    (fuel depth : Nat) (text : List Char) :
    value (fuel + 1) (depth + 1) ('[' :: first :: text) =
      (items fuel depth (first :: text)).map fun (items, rest) => (.arr items, rest) := by
  simp only [value, skipGap_cons hgap]
  split
  · rename_i heq
    cases heq
  · split
    · rename_i heq
      exact absurd (List.cons.inj heq).1 hfirst
    · rfl

theorem value_obj (fuel depth : Nat) (text : List Char) :
    value (fuel + 1) (depth + 1) ('\x7b' :: '"' :: text) =
      (members fuel depth ('"' :: text)).map fun (members, rest) => (ofMembers members, rest) := by
  have hgap : skipGap ('"' :: text) = '"' :: text := skipGap_cons (by decide) text
  simp [value, hgap]

theorem items_last {fuel depth : Nat} {text rest : List Char} {item : Json}
    (h : value fuel depth text = .ok (item, ']' :: rest)) :
    items (fuel + 1) depth text = .ok ([item], rest) := by
  rw [items, h]
  rfl

theorem items_next {fuel depth : Nat} {text more : List Char} {item : Json}
    (h : value fuel depth text = .ok (item, ',' :: ' ' :: more)) (hgap : skipGap more = more) :
    items (fuel + 1) depth text =
      (items fuel depth more).map fun (items, rest) => (item :: items, rest) := by
  have hcomma : skipGap (',' :: ' ' :: more) = ',' :: ' ' :: more := rfl
  rw [items, h]
  simp only [bind, Except.bind, hcomma, skipGap_blank, hgap]
  cases items fuel depth more <;> rfl

section

variable {fuel depth : Nat} {name : Text} {text : List Char} {member : Json}

theorem quoted_name (name : Text) (text : List Char) :
    writeStr name ++ ':' :: ' ' :: text =
      '"' :: (name.points.flatMap writePoint ++ '"' :: ':' :: ' ' :: text) := by
  simp [writeStr]

theorem members_last (hname : name.Apart) (hgap : skipGap text = text) {rest : List Char}
    (h : value fuel depth text = .ok (member, '\x7d' :: rest)) :
    members (fuel + 1) depth (writeStr name ++ ':' :: ' ' :: text) =
      .ok ([(name, member)], rest) := by
  have hcolon : skipGap (':' :: ' ' :: text) = ':' :: ' ' :: text := rfl
  have hbrace : skipGap ('\x7d' :: rest) = '\x7d' :: rest := rfl
  rw [members, quoted_name]
  simp [need, bind, Except.bind, pure, Except.pure, string?_writeStr hname, hcolon, hgap, h, hbrace]

theorem members_next (hname : name.Apart) (hgap : skipGap text = text) {more : List Char}
    (h : value fuel depth text = .ok (member, ',' :: ' ' :: more)) (hmore : skipGap more = more) :
    members (fuel + 1) depth (writeStr name ++ ':' :: ' ' :: text) =
      (members fuel depth more).map fun (members, rest) => ((name, member) :: members, rest) := by
  have hcolon : skipGap (':' :: ' ' :: text) = ':' :: ' ' :: text := rfl
  have hcomma : skipGap (',' :: ' ' :: more) = ',' :: ' ' :: more := rfl
  rw [members, quoted_name]
  cases hrest : members fuel depth more <;>
    simp [need, bind, Except.bind, pure, Except.pure, Except.map, string?_writeStr hname, hcolon,
      hgap, h, hcomma, hmore, hrest]

end

theorem skipGap_chars {value : Json} (h : value.Readable) (rest : List Char) :
    skipGap (value.chars ++ rest) = value.chars ++ rest := by
  obtain ⟨first, more, hchars, hgap, -⟩ := chars_cons h
  rw [hchars, List.cons_append, skipGap_cons hgap]

theorem chars_length_pos {value : Json} (h : value.Readable) : 0 < value.chars.length := by
  obtain ⟨first, more, hchars, -⟩ := chars_cons h
  simp [hchars]

mutual

/-- A value is taken off the front of a text that starts with its own. Its length is fuel enough,
since every value inside it takes up a character at least. -/
theorem value_chars : ∀ (read : Json) {fuel depth : Nat}, read.Readable → read.depth ≤ depth →
    read.chars.length ≤ fuel → ∀ rest, value fuel depth (read.chars ++ rest) = .ok (read, rest)
  | read, 0, _, hread, _, hfuel, _ => by
    have hpos := chars_length_pos hread
    omega
  | .null, fuel + 1, depth, _, _, _, rest => rfl
  | .bool true, fuel + 1, depth, _, _, _, rest => rfl
  | .bool false, fuel + 1, depth, _, _, _, rest => rfl
  | .num _, fuel + 1, depth, hread, _, _, rest => by simp [Readable] at hread
  | .str text, fuel + 1, depth, hread, _, _, rest => value_str (by simpa [Readable] using hread) ..
  | .arr [], fuel + 1, depth + 1, _, _, _, rest => rfl
  | .arr (item :: read), fuel + 1, depth + 1, hread, hdepth, hfuel, rest => by
    rw [Readable] at hread
    rw [Json.depth] at hdepth
    rw [chars_arr] at hfuel ⊢
    have hitems := items_itemsText (item :: read) (List.cons_ne_nil _ _) hread
      (Nat.le_of_succ_le_succ hdepth) (Nat.le_of_succ_le_succ hfuel) rest
    obtain ⟨first, more, hchars, hgap, hfirst⟩ := chars_cons hread.1
    rw [itemsText, hchars] at hitems ⊢
    simp only [List.cons_append] at hitems ⊢
    rw [value_arr hgap hfirst, hitems]
    rfl
  | .obj [], fuel + 1, depth + 1, _, _, _, rest => rfl
  | .obj ((name, member) :: read), fuel + 1, depth + 1, hread, hdepth, hfuel, rest => by
    rw [Readable] at hread
    rw [Json.depth] at hdepth
    rw [chars_obj] at hfuel ⊢
    have hmembers := members_membersText ((name, member) :: read) (List.cons_ne_nil _ _) hread.2
      (Nat.le_of_succ_le_succ hdepth) (Nat.le_of_succ_le_succ hfuel) rest
    rw [membersText, writeStr] at hmembers ⊢
    simp only [List.cons_append] at hmembers ⊢
    rw [value_obj, hmembers]
    simp only [Except.map, ofMembers_eq hread.1]
  | .arr _, _, 0, _, hdepth, _, _ | .obj _, _, 0, _, hdepth, _, _ => by simp [Json.depth] at hdepth

theorem items_itemsText : ∀ (read : List Json) {fuel depth : Nat}, read ≠ [] →
    ReadableItems read → itemsDepth read ≤ depth → (itemsText read).length ≤ fuel →
    ∀ rest, items fuel depth (itemsText read ++ rest) = .ok (read, rest)
  | [], _, _, h, _, _, _, _ => absurd rfl h
  | item :: items, 0, _, _, hread, _, hfuel, _ => by
    have hpos := chars_length_pos hread.1
    rw [itemsText, List.length_append] at hfuel
    omega
  | [item], fuel + 1, depth, _, hread, hdepth, hfuel, rest => by
    have htext : itemsText [item] ++ rest = item.chars ++ ']' :: rest := by
      simp [itemsText, itemsTail]
    rw [itemsDepth] at hdepth
    rw [itemsText, itemsTail, List.length_append, List.length_singleton] at hfuel
    rw [htext]
    exact items_last (value_chars item hread.1 (by omega) (by omega) _)
  | item :: next :: read, fuel + 1, depth, _, hread, hdepth, hfuel, rest => by
    have htext : itemsText (item :: next :: read) ++ rest =
        item.chars ++ ',' :: ' ' :: (itemsText (next :: read) ++ rest) := by
      simp [itemsText, itemsTail]
    have hgap : skipGap (itemsText (next :: read) ++ rest) = itemsText (next :: read) ++ rest := by
      rw [itemsText, List.append_assoc, skipGap_chars hread.2.1]
    rw [itemsDepth] at hdepth
    rw [itemsText, itemsTail_cons, List.length_append, List.length_cons, List.length_cons] at hfuel
    rw [htext, items_next (value_chars item hread.1 (by omega) (by omega) _) hgap,
      items_itemsText (next :: read) (List.cons_ne_nil _ _) hread.2 (by omega) (by omega) rest]
    rfl

theorem members_membersText : ∀ (read : List (Text × Json)) {fuel depth : Nat}, read ≠ [] →
    ReadableMembers read → membersDepth read ≤ depth → (membersText read).length ≤ fuel →
    ∀ rest, members fuel depth (membersText read ++ rest) = .ok (read, rest)
  | [], _, _, h, _, _, _, _ => absurd rfl h
  | (name, member) :: members, 0, _, _, _, _, hfuel, _ => by
    simp [membersText] at hfuel
  | [(name, member)], fuel + 1, depth, _, hread, hdepth, hfuel, rest => by
    have htext : membersText [(name, member)] ++ rest =
        writeStr name ++ ':' :: ' ' :: (member.chars ++ '\x7d' :: rest) := by
      simp [membersText, membersTail]
    rw [membersDepth] at hdepth
    simp only [membersText, List.length_append, List.length_cons] at hfuel
    rw [htext]
    exact members_last hread.1 (skipGap_chars hread.2.1 _)
      (value_chars member hread.2.1 (by omega) (by omega) _)
  | (name, member) :: next :: read, fuel + 1, depth, _, hread, hdepth, hfuel, rest => by
    have htext : membersText ((name, member) :: next :: read) ++ rest =
        writeStr name ++ ':' :: ' ' ::
          (member.chars ++ ',' :: ' ' :: (membersText (next :: read) ++ rest)) := by
      simp [membersText, membersTail_cons]
    have hgap : skipGap (membersText (next :: read) ++ rest) =
        membersText (next :: read) ++ rest := skipGap_cons (by decide) _
    rw [membersDepth] at hdepth
    simp only [membersText, membersTail_cons, List.length_append, List.length_cons] at hfuel
    rw [htext, members_next hread.1 (skipGap_chars hread.2.1 _)
        (value_chars member hread.2.1 (by omega) (by omega) _) hgap,
      members_membersText (next :: read) (List.cons_ne_nil _ _) hread.2.2 (by omega)
        (by rw [membersText]; simp only [List.length_append, List.length_cons]; omega) rest]
    rfl

end

end Reader

/-- Reading undoes writing. -/
theorem read_text {value : Json} (hread : value.Readable) (hdepth : value.depth ≤ Reader.maxDepth) :
    read value.text = .ok value := by
  have hgap := Reader.skipGap_chars hread []
  have hvalue := Reader.value_chars value hread hdepth
    (by omega : value.chars.length ≤ 2 * value.chars.length + 2) []
  rw [List.append_nil] at hgap hvalue
  rw [read, text, String.toList_ofList, Reader.document, hgap, hvalue]
  rfl

theorem Number.chars_plain (number : Number) : number.chars.all Text.isPlain = true := by
  have hnat : ∀ n : Nat, (toString n).toList.all Text.isPlain = true := by
    intro n
    rw [Nat.toString_eq_ofList_toDigits, String.toList_ofList, List.all_eq_true]
    intro c hc
    obtain ⟨hfirst, hlast⟩ : 48 ≤ c.toNat ∧ c.toNat ≤ 57 :=
      Char.isDigit_iff_toNat.mp (Nat.isDigit_of_mem_toDigits (by omega) (by omega) hc)
    simp only [Text.isPlain, Bool.and_eq_true, decide_eq_true_eq]
    omega
  have hint : ∀ n : Int, (toString n).toList.all Text.isPlain = true := by
    intro n
    cases n with
    | ofNat n => exact hnat n
    | negSucc n =>
      have hsplit : (toString (Int.negSucc n)).toList = '-' :: (toString (n + 1)).toList :=
        String.toList_append
      rw [hsplit]
      exact hnat (n + 1)
  cases number with
  | integer value => exact hint value
  | decimal negative digits exponent =>
    have hmark : Text.isPlain 'e' = true := rfl
    have hsign : (if negative then "-" else "").toList.all Text.isPlain = true := by
      cases negative <;> rfl
    simp only [chars, List.all_append, List.all_cons, hsign, hnat, hmark, hint, Bool.and_self]
  | infinity negative => cases negative <;> rfl
  | notANumber => rfl

mutual

theorem chars_plain : ∀ value : Json, value.chars.all Text.isPlain = true
  | .null | .bool true | .bool false | .arr [] | .obj [] => rfl
  | .num number => number.chars_plain
  | .str text => Reader.writeStr_plain text
  | .arr (item :: items) => by
    have hmark : Text.isPlain '[' = true := rfl
    simp only [chars, List.cons_append, List.all_cons, List.all_append, hmark, chars_plain item,
      itemsTail_plain items, Bool.and_self]
  | .obj (member :: members) => by
    have hmarks : Text.isPlain '\x7b' = true ∧ Text.isPlain ':' = true ∧ Text.isPlain ' ' = true :=
      ⟨rfl, rfl, rfl⟩
    simp only [chars, List.cons_append, List.all_cons, List.all_append, hmarks,
      Reader.writeStr_plain, chars_plain member.2, membersTail_plain members, Bool.and_self]

theorem itemsTail_plain : ∀ items : List Json, (itemsTail items).all Text.isPlain = true
  | [] => rfl
  | item :: items => by
    have hmarks : Text.isPlain ',' = true ∧ Text.isPlain ' ' = true := ⟨rfl, rfl⟩
    simp only [itemsTail, List.cons_append, List.all_cons, List.all_append, hmarks,
      chars_plain item, itemsTail_plain items, Bool.and_self]

theorem membersTail_plain : ∀ members : List (Text × Json),
    (membersTail members).all Text.isPlain = true
  | [] => rfl
  | (name, value) :: members => by
    have hmarks : Text.isPlain ',' = true ∧ Text.isPlain ':' = true ∧ Text.isPlain ' ' = true :=
      ⟨rfl, rfl, rfl⟩
    simp only [membersTail, List.cons_append, List.all_cons, List.all_append, hmarks,
      Reader.writeStr_plain, chars_plain value, membersTail_plain members, Bool.and_self]

end

end Rbac.Json
