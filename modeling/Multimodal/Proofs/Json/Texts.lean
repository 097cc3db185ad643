import Multimodal.Proofs.Json.Numbers
import Multimodal.Proofs.Json.Strings

/-!
# Values as they are written and read

The text of a value is read as `seen`: what the value holds, except that doubles that are not finite
come back as `null`, and that arrays and objects nested too deeply come back as `unreadable`
(`readValue_chars`, `read_print`). A value without such parts is read back as it was
(`seen_eq_self`).

Of the numbers it is asked only that each comes back from its own text (`ReadsBack`); the text
around it then makes no difference.
-/
namespace Multimodal.Json

mutual

/-- The values without parts of their own inside a value. -/
def leaves : Json → List Json
  | .arr items => itemsLeaves items
  | .obj members => membersLeaves members
  | v => [v]

def itemsLeaves : List Json → List Json
  | [] => []
  | item :: rest => leaves item ++ itemsLeaves rest

def membersLeaves : List (String × Json) → List Json
  | [] => []
  | (_, value) :: rest => leaves value ++ membersLeaves rest

end

def reals (v : Json) : List Float :=
  v.leaves.filterMap fun leaf =>
    match leaf with
    | .real x => some x
    | _ => none

mutual

/-- The levels of nesting of arrays and objects. -/
def depth : Json → Nat
  | .arr items => itemsDepth items + 1
  | .obj members => membersDepth members + 1
  | _ => 0

def itemsDepth : List Json → Nat
  | [] => 0
  | item :: rest => max (depth item) (itemsDepth rest)

def membersDepth : List (String × Json) → Nat
  | [] => 0
  | (_, value) :: rest => max (depth value) (membersDepth rest)

end

mutual

/-- A value as it comes back from its text, with a number of levels of nesting left. -/
def seen (levels : Nat) : Json → Json
  | .real x => if x.isFinite then .real x else .null
  | .arr items => if levels = 0 then .unreadable else .arr (itemsSeen (levels - 1) items)
  | .obj members => if levels = 0 then .unreadable else .obj (membersSeen (levels - 1) members)
  | .unreadable => .null
  | .unnamed => .null
  | .broken => .null
  | v => v

def itemsSeen (levels : Nat) : List Json → List Json
  | [] => []
  | item :: rest => seen levels item :: itemsSeen levels rest

def membersSeen (levels : Nat) : List (String × Json) → List (String × Json)
  | [] => []
  | (name, value) :: rest => (name, seen levels value) :: membersSeen levels rest

end

theorem membersSeen_eq_map (levels : Nat) (members : List (String × Json)) :
    membersSeen levels members = members.map fun m => (m.1, seen levels m.2) := by
  induction members with
  | nil => rfl
  | cons m rest ih => rw [membersSeen, ih, List.map_cons]

theorem itemsSeen_eq_map (levels : Nat) (items : List Json) :
    itemsSeen levels items = items.map (seen levels) := by
  induction items with
  | nil => rfl
  | cons item rest ih => rw [itemsSeen, ih, List.map_cons]

theorem mem_reals {v : Json} {x : Float} : x ∈ v.reals ↔ .real x ∈ v.leaves := by
  rw [reals, List.mem_filterMap]
  constructor
  · rintro ⟨leaf, hleaf, hx⟩
    split at hx <;> cases hx
    exact hleaf
  · exact fun h => ⟨.real x, h, rfl⟩

/-- A number comes back from its own text. Doubles that are not finite are not written as
numbers. -/
def ReadsBack : Json → Prop
  | .int n => keepsInteger n = true
  | .real x => x.isFinite = true → readNumber (Number.jsonText x) = some (.real x, [])
  | _ => True

/-! ## Values without parts -/

def isSpace (c : Char) : Bool := c == ' ' || c == '\t' || c == '\n' || c == '\r'

theorem skipSpace_cons {c : Char} (h : isSpace c = false) (rest : List Char) :
    skipSpace (c :: rest) = c :: rest := by
  rw [skipSpace, List.dropWhile_cons]
  exact if_neg (by rw [← isSpace, h]; exact Bool.false_ne_true)

theorem ne_of_opensNumber {c d : Char} (hc : opensNumber c = true) (hd : opensNumber d = false) :
    c ≠ d := by
  rintro rfl
  rw [hc] at hd
  cases hd

theorem isSpace_of_opensNumber {c : Char} (hc : opensNumber c = true) : isSpace c = false := by
  simp only [isSpace, Bool.or_eq_false_iff, beq_eq_false_iff_ne]
  exact ⟨⟨⟨ne_of_opensNumber hc rfl, ne_of_opensNumber hc rfl⟩, ne_of_opensNumber hc rfl⟩,
    ne_of_opensNumber hc rfl⟩

theorem readAtom_of_opensNumber {c : Char} (hc : opensNumber c = true) {cs more : List Char}
    {v : Json} (h : readNumber (c :: cs) = some (v, more)) :
    readAtom (c :: cs) = (v, some more) := by
  unfold readAtom
  split
  case h_1 heq => exact absurd (List.cons.inj heq).1 (ne_of_opensNumber hc rfl)
  case h_2 heq => exact absurd (List.cons.inj heq).1 (ne_of_opensNumber hc rfl)
  case h_3 heq => exact absurd (List.cons.inj heq).1 (ne_of_opensNumber hc rfl)
  case h_4 heq => exact absurd (List.cons.inj heq).1 (ne_of_opensNumber hc rfl)
  case h_5 => simp only [h]

/-- What opens neither an array nor an object is a value without parts. -/
theorem readValue_eq_readAtom (fuel levels : Nat) {c : Char} (hspace : isSpace c = false)
    (harray : c ≠ '[') (hobject : c ≠ '{') (rest : List Char) :
    readValue (fuel + 1) levels (c :: rest) = readAtom (c :: rest) := by
  rw [readValue, skipSpace_cons hspace]
  split
  case h_1 heq => exact absurd (List.cons.inj heq).1 harray
  case h_2 heq => exact absurd (List.cons.inj heq).1 hobject
  case h_3 => rfl

/-- A number is read in a document as it is read alone. -/
theorem readValue_number (fuel levels : Nat) {cs rest : List Char} {v : Json}
    (h : readNumber cs = some (v, [])) (hrest : Ends rest) :
    readValue (fuel + 1) levels (cs ++ rest) = (v, some rest) := by
  obtain ⟨c, tail, rfl, hc⟩ := head_of_readNumber h
  rw [List.cons_append, readValue_eq_readAtom fuel levels (isSpace_of_opensNumber hc)
    (ne_of_opensNumber hc rfl) (ne_of_opensNumber hc rfl)]
  exact readAtom_of_opensNumber hc (readNumber_append h hrest)

theorem readName_stringText (name : String) (rest : List Char) :
    readName (stringText name ++ rest) = some (some name, rest) := by
  simp only [stringText, List.cons_append, List.append_assoc, List.nil_append, readName,
    readPieces_text, joinPieces_map_pieceOf, Option.map_some, String.ofList_toList]

theorem readAtom_stringText (s : String) (rest : List Char) :
    readAtom (stringText s ++ rest) = (.str s, some rest) := by
  simp only [stringText, List.cons_append, List.append_assoc, List.nil_append, readAtom,
    readPieces_text, joinPieces_map_pieceOf, String.ofList_toList]

/-! ## Arrays and objects -/

/-- A text starts with a character that is not skipped and that closes no array. -/
def Starts (cs : List Char) : Prop := ∃ c rest, cs = c :: rest ∧ isSpace c = false ∧ c ≠ ']'

theorem starts_of_readNumber {cs : List Char} {v : Json} (h : readNumber cs = some (v, [])) :
    Starts cs := by
  obtain ⟨c, rest, rfl, hc⟩ := head_of_readNumber h
  exact ⟨c, rest, rfl, isSpace_of_opensNumber hc, ne_of_opensNumber hc rfl⟩

theorem starts_chars {v : Json} (h : ∀ leaf ∈ v.leaves, ReadsBack leaf) : Starts (chars v) := by
  cases v with
  | null => exact ⟨_, _, rfl, rfl, by decide⟩
  | bool b => cases b <;> exact ⟨_, _, rfl, rfl, by decide⟩
  | int n =>
    have hkeeps := h (.int n) (by simp [leaves])
    exact starts_of_readNumber (readNumber_integerText hkeeps)
  | real x =>
    rw [chars]
    split
    · rename_i hfinite
      exact starts_of_readNumber (h (.real x) (by simp [leaves]) hfinite)
    · exact ⟨_, _, rfl, rfl, by decide⟩
  | str s => exact ⟨_, _, rfl, rfl, by decide⟩
  | arr items => cases items <;> exact ⟨_, _, rfl, rfl, by decide⟩
  | obj members =>
    cases members with
    | nil => exact ⟨_, _, rfl, rfl, by decide⟩
    | cons member rest => exact ⟨_, _, rfl, rfl, by decide⟩
  | unreadable => exact ⟨_, _, rfl, rfl, by decide⟩
  | unnamed => exact ⟨_, _, rfl, rfl, by decide⟩
  | broken => exact ⟨_, _, rfl, rfl, by decide⟩

def itemsText : List Json → List Char
  | [] => []
  | item :: rest => chars item ++ itemsChars rest

def membersText : List (String × Json) → List Char
  | [] => []
  | (name, value) :: rest => stringText name ++ ':' :: (chars value ++ membersChars rest)

theorem itemsChars_cons (item : Json) (items : List Json) :
    itemsChars (item :: items) = ',' :: itemsText (item :: items) := by
  simp only [itemsChars, itemsText, List.cons_append]

theorem membersChars_cons (member : String × Json) (members : List (String × Json)) :
    membersChars (member :: members) = ',' :: membersText (member :: members) := by
  simp only [membersChars, membersText, List.cons_append, List.append_assoc]

theorem chars_array (item : Json) (items : List Json) :
    chars (.arr (item :: items)) = '[' :: itemsText (item :: items) := by
  simp only [chars, itemsText, List.cons_append]

theorem chars_object (member : String × Json) (members : List (String × Json)) :
    chars (.obj (member :: members)) = '{' :: membersText (member :: members) := by
  simp only [chars, membersText, List.cons_append, List.append_assoc]

theorem length_itemsChars_pos (items : List Json) : 0 < (itemsChars items).length := by
  cases items with
  | nil => exact Nat.one_pos
  | cons item more => exact Nat.succ_pos _

theorem readValue_array {fuel levels : Nat} {item : Json} {items read : List Json}
    {rest : List Char} (hitem : ∀ leaf ∈ item.leaves, ReadsBack leaf)
    (h : readItems fuel (levels - 1) (itemsText (item :: items) ++ rest) = (read, some rest)) :
    readValue (fuel + 1) levels (chars (.arr (item :: items)) ++ rest) =
      (if levels = 0 then .unreadable else .arr read, some rest) := by
  obtain ⟨c, tail, hhead, hspace, hclose⟩ := starts_chars hitem
  simp only [chars_array, itemsText, hhead, List.cons_append] at h ⊢
  rw [readValue, skipSpace_cons rfl]
  simp only [skipSpace_cons hspace]
  split
  case h_1 heq => exact absurd (List.cons.inj heq).1 hclose
  case h_2 =>
    rw [h]
    rfl

theorem readValue_object {fuel levels : Nat} {member : String × Json}
    {members read : List (String × Json)} {rest : List Char}
    (h : readMembers fuel (levels - 1) (membersText (member :: members) ++ rest) =
      (read, some rest)) :
    readValue (fuel + 1) levels (chars (.obj (member :: members)) ++ rest) =
      (if levels = 0 then .unreadable else .obj read, some rest) := by
  have hquote : skipSpace (membersText (member :: members) ++ rest) =
      membersText (member :: members) ++ rest := skipSpace_cons rfl _
  rw [chars_object, List.cons_append, readValue, skipSpace_cons rfl]
  simp only [hquote]
  split
  case h_1 heq => cases heq
  case h_2 =>
    rw [h]
    rfl

theorem readItems_last {fuel levels : Nat} {item : Json} {cs rest : List Char}
    (h : readValue fuel levels cs = (item, some (']' :: rest))) :
    readItems (fuel + 1) levels cs = ([item], some rest) := by
  rw [readItems, h]
  simp only
  rw [skipSpace_cons rfl]
  rfl

/-- After an item, a comma leads to the items that follow. -/
theorem readItems_more {fuel levels : Nat} {item : Json} {items : List Json}
    {cs more rest : List Char} (h : readValue fuel levels cs = (item, some (',' :: more)))
    (hmore : readItems fuel levels more = (items, some rest)) :
    readItems (fuel + 1) levels cs = (item :: items, some rest) := by
  rw [readItems, h]
  simp only
  rw [skipSpace_cons rfl]
  simp only [hmore]

section Members

variable {fuel levels : Nat} {value : Json} {cs rest : List Char} (name : String)

theorem skipSpace_stringText : skipSpace (stringText name ++ cs) = stringText name ++ cs :=
  skipSpace_cons rfl _

theorem readMembers_last (h : readValue fuel levels cs = (value, some ('}' :: rest))) :
    readMembers (fuel + 1) levels (stringText name ++ ':' :: cs) =
      ([(name, value)], some rest) := by
  rw [readMembers, skipSpace_stringText, readName_stringText]
  simp only
  rw [skipSpace_cons rfl]
  simp only [h]
  rw [skipSpace_cons rfl]
  rfl

/-- After a member, a comma leads to the members that follow. -/
theorem readMembers_more {members : List (String × Json)} {more : List Char}
    (h : readValue fuel levels cs = (value, some (',' :: more)))
    (hmore : readMembers fuel levels more = (members, some rest)) :
    readMembers (fuel + 1) levels (stringText name ++ ':' :: cs) =
      ((name, value) :: members, some rest) := by
  rw [readMembers, skipSpace_stringText, readName_stringText]
  simp only
  rw [skipSpace_cons rfl]
  simp only [h]
  rw [skipSpace_cons rfl]
  simp only [hmore]
  rfl

end Members

mutual

/-- The text of a value is read as what is seen of it. -/
theorem readValue_chars : ∀ (v : Json) {fuel : Nat} (levels : Nat) {rest : List Char},
    (∀ leaf ∈ v.leaves, ReadsBack leaf) → Ends rest → 2 * (chars v).length ≤ fuel →
    readValue fuel levels (chars v ++ rest) = (seen levels v, some rest)
  | v, 0, _, _, hleaves, _, hfuel => by
    obtain ⟨c, tail, hhead, -, -⟩ := starts_chars hleaves
    rw [hhead, List.length_cons] at hfuel
    omega
  | .null, fuel + 1, _, _, _, _, _ => rfl
  | .bool true, fuel + 1, _, _, _, _, _ => rfl
  | .bool false, fuel + 1, _, _, _, _, _ => rfl
  | .unreadable, fuel + 1, _, _, _, _, _ => rfl
  | .unnamed, fuel + 1, _, _, _, _, _ => rfl
  | .broken, fuel + 1, _, _, _, _, _ => rfl
  | .int n, fuel + 1, levels, _, hleaves, hrest, _ => by
    have hkeeps := hleaves (.int n) List.mem_cons_self
    exact readValue_number fuel levels (readNumber_integerText hkeeps) hrest
  | .real x, fuel + 1, levels, rest, hleaves, hrest, _ => by
    simp only [chars, seen]
    split
    · rename_i hfinite
      exact readValue_number fuel levels (hleaves (.real x) List.mem_cons_self hfinite) hrest
    · rfl
  | .str s, fuel + 1, levels, rest, _, _, _ => by
    have hatom := readAtom_stringText s rest
    exact (readValue_eq_readAtom fuel levels rfl (by decide) (by decide) _).trans hatom
  | .arr [], fuel + 1, levels, _, _, _, _ => rfl
  | .obj [], fuel + 1, levels, _, _, _, _ => rfl
  | .arr (item :: items), fuel + 1, levels, rest, hleaves, hrest, hfuel => by
    rw [chars_array, List.length_cons] at hfuel
    have hitem : ∀ leaf ∈ item.leaves, ReadsBack leaf :=
      fun leaf hleaf => hleaves leaf (List.mem_append_left _ hleaf)
    exact readValue_array hitem
      (readItems_chars item items (levels - 1) hleaves (by omega))
  | .obj (member :: members), fuel + 1, levels, rest, hleaves, hrest, hfuel => by
    rw [chars_object, List.length_cons] at hfuel
    exact readValue_object (readMembers_chars member members (levels - 1) hleaves (by omega))

theorem readItems_chars : ∀ (item : Json) (items : List Json) {fuel : Nat} (levels : Nat)
    {rest : List Char}, (∀ leaf ∈ itemsLeaves (item :: items), ReadsBack leaf) →
    2 * (itemsText (item :: items)).length ≤ fuel →
    readItems fuel levels (itemsText (item :: items) ++ rest) =
      (itemsSeen levels (item :: items), some rest)
  | item, items, 0, _, _, hleaves, hfuel => by
    have := length_itemsChars_pos items
    simp only [itemsText, List.length_append] at hfuel
    omega
  | item, [], fuel + 1, levels, rest, hleaves, hfuel => by
    simp only [itemsText, itemsChars, List.length_append, List.length_cons,
      List.length_nil] at hfuel
    have hlast := @readValue_chars item fuel levels (']' :: rest)
      (fun leaf hleaf => hleaves leaf (List.mem_append_left _ hleaf))
      (fun c hc => .inr (.inl (Option.some.inj hc).symm)) (by omega)
    simp only [itemsText, itemsChars, List.append_assoc]
    exact readItems_last hlast
  | item, next :: items, fuel + 1, levels, rest, hleaves, hfuel => by
    simp only [itemsText, itemsChars_cons, List.length_append, List.length_cons] at hfuel
    have hitem := @readValue_chars item fuel levels (',' :: (itemsText (next :: items) ++ rest))
      (fun leaf hleaf => hleaves leaf (List.mem_append_left _ hleaf))
      (fun c hc => .inl (Option.some.inj hc).symm) (by omega)
    have hmore := @readItems_chars next items fuel levels rest
      (fun leaf hleaf => hleaves leaf (List.mem_append_right _ hleaf))
      (by simp only [itemsText, List.length_append]; omega)
    rw [itemsText, itemsChars_cons, List.append_assoc]
    exact readItems_more hitem hmore

theorem readMembers_chars : ∀ (member : String × Json) (members : List (String × Json))
    {fuel : Nat} (levels : Nat) {rest : List Char},
    (∀ leaf ∈ membersLeaves (member :: members), ReadsBack leaf) →
    2 * (membersText (member :: members)).length ≤ fuel →
    readMembers fuel levels (membersText (member :: members) ++ rest) =
      (membersSeen levels (member :: members), some rest)
  | (name, value), members, 0, _, _, hleaves, hfuel => by
    simp only [membersText, List.length_append, List.length_cons] at hfuel
    omega
  | (name, value), [], fuel + 1, levels, rest, hleaves, hfuel => by
    simp only [membersText, membersChars, List.length_append, List.length_cons, List.length_nil]
      at hfuel
    have hlast := @readValue_chars value fuel levels ('}' :: rest)
      (fun leaf hleaf => hleaves leaf (List.mem_append_left _ hleaf))
      (fun c hc => .inr (.inr (Option.some.inj hc).symm)) (by omega)
    simp only [membersText, membersChars, List.append_assoc, List.cons_append]
    exact readMembers_last name hlast
  | (name, value), next :: members, fuel + 1, levels, rest, hleaves, hfuel => by
    simp only [membersText, membersChars_cons, List.length_append, List.length_cons] at hfuel
    have hvalue := @readValue_chars value fuel levels
      (',' :: (membersText (next :: members) ++ rest))
      (fun leaf hleaf => hleaves leaf (List.mem_append_left _ hleaf))
      (fun c hc => .inl (Option.some.inj hc).symm) (by omega)
    have hmore := @readMembers_chars next members fuel levels rest
      (fun leaf hleaf => hleaves leaf (List.mem_append_right _ hleaf))
      (by simp only [membersText, List.length_append, List.length_cons]; omega)
    simp only [membersText, membersChars_cons, List.append_assoc,
      List.cons_append] at hmore hvalue ⊢
    exact readMembers_more name hvalue hmore

end

/-- A printed value is read as what is seen of it, and nothing follows it. -/
theorem read_print {v : Json} (h : ∀ leaf ∈ v.leaves, ReadsBack leaf) :
    read v.print = ⟨seen maxDepth v, true⟩ := by
  have hread := @readValue_chars v (2 * (chars v).length + 2) maxDepth [] h nofun (by omega)
  rw [List.append_nil] at hread
  simp only [read, print, String.toList_ofList, hread]
  rfl

mutual

/-- A value that can be used, without infinite doubles and not nested too deeply comes back. -/
theorem seen_eq_self : ∀ {v : Json} {levels : Nat}, v.isReadable = true → v.depth ≤ levels →
    (∀ x, .real x ∈ v.leaves → x.isFinite = true) → seen levels v = v
  | .null, _, _, _, _ => rfl
  | .bool _, _, _, _, _ => rfl
  | .int _, _, _, _, _ => rfl
  | .str _, _, _, _, _ => rfl
  | .real x, _, _, _, hfinite => if_pos (hfinite x List.mem_cons_self)
  | .arr items, levels, hreadable, hdepth, hfinite => by
    rw [depth] at hdepth
    rw [seen, if_neg (by omega), itemsSeen_eq_self hreadable (by omega) hfinite]
  | .obj members, levels, hreadable, hdepth, hfinite => by
    rw [depth] at hdepth
    rw [seen, if_neg (by omega), membersSeen_eq_self hreadable (by omega) hfinite]

theorem itemsSeen_eq_self : ∀ {items : List Json} {levels : Nat}, areReadable items = true →
    itemsDepth items ≤ levels → (∀ x, .real x ∈ itemsLeaves items → x.isFinite = true) →
    itemsSeen levels items = items
  | [], _, _, _, _ => rfl
  | item :: items, levels, hreadable, hdepth, hfinite => by
    rw [areReadable, Bool.and_eq_true] at hreadable
    rw [itemsDepth, Nat.max_le] at hdepth
    rw [itemsSeen,
      seen_eq_self hreadable.1 hdepth.1 fun x hx => hfinite x (List.mem_append_left _ hx),
      itemsSeen_eq_self hreadable.2 hdepth.2 fun x hx => hfinite x (List.mem_append_right _ hx)]

theorem membersSeen_eq_self : ∀ {members : List (String × Json)} {levels : Nat},
    membersReadable members = true → membersDepth members ≤ levels →
    (∀ x, .real x ∈ membersLeaves members → x.isFinite = true) →
    membersSeen levels members = members
  | [], _, _, _, _ => rfl
  | (name, value) :: members, levels, hreadable, hdepth, hfinite => by
    rw [membersReadable, Bool.and_eq_true] at hreadable
    rw [membersDepth, Nat.max_le] at hdepth
    rw [membersSeen,
      seen_eq_self hreadable.1 hdepth.1 fun x hx => hfinite x (List.mem_append_left _ hx),
      membersSeen_eq_self hreadable.2 hdepth.2 fun x hx => hfinite x (List.mem_append_right _ hx)]

end

end Multimodal.Json
