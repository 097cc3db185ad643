import Multimodal.Proofs.Json.Texts

/-!
# What a text can hold

Whatever the text, the value that is read from it nests no deeper than was allowed, its integers are
of sixty-four bits and its doubles finite (`held_reads`, `held_read`).
-/
namespace Multimodal.Json

/-- A number that a text can hold. -/
def IsSane : Json → Prop
  | .int n => keepsInteger n = true
  | .real x => x.isFinite = true
  | _ => True

/-- A value that a text can hold within a number of levels of nesting. -/
structure Held (levels : Nat) (v : Json) : Prop where
  nests : v.depth ≤ levels
  sane : ∀ leaf ∈ v.leaves, IsSane leaf

theorem itemsDepth_le_iff {items : List Json} {levels : Nat} :
    itemsDepth items ≤ levels ↔ ∀ item ∈ items, item.depth ≤ levels := by
  induction items with
  | nil => simp [itemsDepth]
  | cons item rest ih => rw [itemsDepth, Nat.max_le, List.forall_mem_cons, ih]

theorem membersDepth_le_iff {members : List (String × Json)} {levels : Nat} :
    membersDepth members ≤ levels ↔ ∀ member ∈ members, member.2.depth ≤ levels := by
  induction members with
  | nil => simp [membersDepth]
  | cons member rest ih => rw [membersDepth, Nat.max_le, List.forall_mem_cons, ih]

theorem mem_itemsLeaves {items : List Json} {leaf : Json} :
    leaf ∈ itemsLeaves items ↔ ∃ item ∈ items, leaf ∈ item.leaves := by
  induction items with
  | nil => simp [itemsLeaves]
  | cons item rest ih => simp [itemsLeaves, ih]

theorem mem_membersLeaves {members : List (String × Json)} {leaf : Json} :
    leaf ∈ membersLeaves members ↔ ∃ member ∈ members, leaf ∈ member.2.leaves := by
  induction members with
  | nil => simp [membersLeaves]
  | cons member rest ih => simp [membersLeaves, ih]

theorem held_array {items : List Json} {levels : Nat} :
    Held levels (.arr items) ↔ levels ≠ 0 ∧ ∀ item ∈ items, Held (levels - 1) item := by
  constructor
  · rintro ⟨hnests, hsane⟩
    rw [depth] at hnests
    refine ⟨by omega, fun item hitem => ⟨?_, ?_⟩⟩
    · exact itemsDepth_le_iff.mp (by omega) item hitem
    · exact fun leaf hleaf => hsane leaf (mem_itemsLeaves.mpr ⟨item, hitem, hleaf⟩)
  · rintro ⟨hlevels, hitems⟩
    refine ⟨?_, fun leaf hleaf => ?_⟩
    · have := itemsDepth_le_iff.mpr fun item hitem => (hitems item hitem).nests
      rw [depth]
      omega
    · obtain ⟨item, hitem, hleaf⟩ := mem_itemsLeaves.mp hleaf
      exact (hitems item hitem).sane leaf hleaf

theorem held_object {members : List (String × Json)} {levels : Nat} :
    Held levels (.obj members) ↔ levels ≠ 0 ∧ ∀ member ∈ members, Held (levels - 1) member.2 := by
  constructor
  · rintro ⟨hnests, hsane⟩
    rw [depth] at hnests
    refine ⟨by omega, fun member hmember => ⟨?_, ?_⟩⟩
    · exact membersDepth_le_iff.mp (by omega) member hmember
    · exact fun leaf hleaf => hsane leaf (mem_membersLeaves.mpr ⟨member, hmember, hleaf⟩)
  · rintro ⟨hlevels, hmembers⟩
    refine ⟨?_, fun leaf hleaf => ?_⟩
    · have := membersDepth_le_iff.mpr fun member hmember => (hmembers member hmember).nests
      rw [depth]
      omega
    · obtain ⟨member, hmember, hleaf⟩ := mem_membersLeaves.mp hleaf
      exact (hmembers member hmember).sane leaf hleaf

/-- A value without parts is held at any level. -/
theorem held_atom {levels : Nat} {v : Json} (hdepth : v.depth = 0) (hleaves : v.leaves = [v])
    (hsane : IsSane v) : Held levels v := by
  refine ⟨by omega, ?_⟩
  rw [hleaves]
  simpa using hsane

theorem held_broken (levels : Nat) : Held levels .broken := held_atom rfl rfl trivial

theorem held_unreadable (levels : Nat) : Held levels .unreadable := held_atom rfl rfl trivial

theorem held_numberValue (levels : Nat) (l : Number.Literal) (isInteger : Bool) :
    Held levels (numberValue l isInteger) := by
  unfold numberValue
  extract_lets n signed
  split
  · rename_i hint
    simp only [Bool.and_eq_true] at hint
    exact held_atom rfl rfl hint.1.2
  · split
    · rename_i hfinite
      exact held_atom rfl rfl hfinite
    · exact held_unreadable levels

theorem held_readUnsigned {levels : Nat} {negative : Bool} {cs rest : List Char} {v : Json}
    (h : readUnsigned negative cs = some (v, rest)) : Held levels v := by
  simp only [readUnsigned, Option.bind_eq_bind, Option.bind_eq_some_iff, Option.pure_def,
    Prod.exists] at h
  obtain ⟨whole, _, -, fraction, _, -, power, _, -, heq⟩ := h
  cases heq
  exact held_numberValue levels _ _

theorem held_readNumber {levels : Nat} {cs rest : List Char} {v : Json}
    (h : readNumber cs = some (v, rest)) : Held levels v := by
  unfold readNumber at h
  split at h
  · exact held_readUnsigned h
  · exact held_readUnsigned h

theorem held_readAtom (levels : Nat) (cs : List Char) : Held levels (readAtom cs).1 := by
  unfold readAtom
  split
  case h_1 => exact held_atom rfl rfl trivial
  case h_2 => exact held_atom rfl rfl trivial
  case h_3 => exact held_atom rfl rfl trivial
  case h_4 =>
    split
    · exact held_broken levels
    · split
      · exact held_atom rfl rfl trivial
      · exact held_unreadable levels
  case h_5 =>
    split
    · exact held_broken levels
    · rename_i hread
      exact held_readNumber hread

theorem held_enclose {levels : Nat} {v : Json} (rest : Option (List Char))
    (h : levels ≠ 0 → Held levels v) : Held levels (enclose levels v rest).1 := by
  cases rest <;> simp only [enclose] <;> split
  · exact held_broken levels
  · exact h ‹_›
  · exact held_unreadable levels
  · exact h ‹_›

theorem held_member {levels : Nat} {name : Option String} {v : Json} (h : Held levels v) :
    ∀ m ∈ member name v, Held levels m.2 := by
  cases name with
  | none => simpa [member] using ⟨held_atom rfl rfl trivial, h⟩
  | some name => simpa [member] using h

/-- What is read within a number of levels nests no deeper. -/
theorem held_reads (fuel : Nat) :
    (∀ levels cs, Held levels (readValue fuel levels cs).1) ∧
    (∀ levels cs, ∀ item ∈ (readItems fuel levels cs).1, Held levels item) ∧
    (∀ levels cs, ∀ m ∈ (readMembers fuel levels cs).1, Held levels m.2) := by
  induction fuel with
  | zero =>
    refine ⟨fun levels cs => held_broken levels, fun levels cs => ?_, fun levels cs => ?_⟩
    · simpa [readItems] using held_broken levels
    · simpa [readMembers] using held_broken levels
  | succ fuel ih =>
    obtain ⟨hvalue, hitems, hmembers⟩ := ih
    refine ⟨fun levels cs => ?_, fun levels cs => ?_, fun levels cs => ?_⟩
    · rw [readValue]
      split
      · split
        · exact held_enclose _ fun hlevels => held_array.mpr ⟨hlevels, List.forall_mem_nil _⟩
        · exact held_enclose _ fun hlevels => held_array.mpr ⟨hlevels, hitems _ _⟩
      · split
        · exact held_enclose _ fun hlevels => held_object.mpr ⟨hlevels, List.forall_mem_nil _⟩
        · exact held_enclose _ fun hlevels => held_object.mpr ⟨hlevels, hmembers _ _⟩
      · exact held_readAtom levels _
    · have hitem := hvalue levels cs
      rw [readItems]
      split
      · rename_i heq
        rw [heq] at hitem
        simpa using hitem
      · rename_i heq
        rw [heq] at hitem
        split
        · simpa using hitem
        · exact List.forall_mem_cons.mpr ⟨hitem, hitems levels _⟩
        · simpa using ⟨hitem, held_broken levels⟩
    · rw [readMembers]
      split
      · simpa using held_broken levels
      · split
        · rename_i cs _
          have hmember := hvalue levels cs
          split
          · rename_i heq
            rw [heq] at hmember
            exact held_member hmember
          · rename_i heq
            rw [heq] at hmember
            split
            · exact held_member hmember
            · exact List.forall_mem_append.mpr ⟨held_member hmember, hmembers levels _⟩
            · exact List.forall_mem_append.mpr
                ⟨held_member hmember, by simpa using held_broken levels⟩
        · simpa using held_broken levels

/-- A text holds a value that nests no deeper than any value may. -/
theorem held_read (text : String) : Held maxDepth (read text).value := by
  have hread := (held_reads (2 * text.toList.length + 2)).1 maxDepth text.toList
  unfold read
  extract_lets cs
  split <;> rename_i heq <;> rw [heq] at hread <;> exact hread

end Multimodal.Json
