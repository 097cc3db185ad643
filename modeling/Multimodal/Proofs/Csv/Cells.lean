import Multimodal.Csv.Rows
import Multimodal.Proofs.IntegerText

/-!
# Reading cells back

Every value of a row has a text, and a cell with that text is read as the value: integers in
decimal, flags as words, and values that may be absent as nothing if they are. A text stands for
itself as long as it does not begin or end with white space, which reading a cell takes away.
-/
namespace Multimodal

/-! ## Texts without white space at their ends -/

namespace Text

/-- Whether a text neither begins nor ends with white space. -/
def isTight (s : String) : Bool :=
  s.toList.head?.all (!isBlank ·) && s.toList.getLast?.all (!isBlank ·)

theorem dropWhile_of_head? {cs : List Char} (h : cs.head?.all (!isBlank ·) = true) :
    cs.dropWhile isBlank = cs := by
  cases cs with
  | nil => rfl
  | cons c rest =>
    have hc : isBlank c = false := by simpa using h
    rw [List.dropWhile_cons, hc]
    rfl

theorem trimmed_of_isTight {s : String} (h : isTight s = true) : trimmed s = s := by
  simp only [isTight, Bool.and_eq_true] at h
  have hend : s.toList.reverse.head?.all (!isBlank ·) = true := by
    rw [List.head?_reverse]
    exact h.2
  rw [trimmed, trim, trimStart, dropWhile_of_head? h.1, trimEnd, dropWhile_of_head? hend,
    List.reverse_reverse, String.ofList_toList]

theorem isTight_of_forall {s : String} (h : ∀ c ∈ s.toList, isBlank c = false) :
    isTight s = true := by
  simp only [isTight, Bool.and_eq_true, Option.all_eq_true, Bool.not_eq_true']
  constructor
  · intro c hc
    exact h c (List.mem_of_head? hc)
  · intro c hc
    exact h c (List.mem_of_getLast? hc)

theorem isBlank_of_isDigit {c : Char} (h : c.isDigit = true) : isBlank c = false := by
  have hrange : 48 ≤ c.toNat ∧ c.toNat ≤ 57 := by
    simpa [Char.isDigit, UInt32.le_iff_toNat_le] using h
  simp [isBlank, blankRanges]
  omega

end Text

namespace Csv

/-! ## Texts of values -/

def cellOf (text : String) : Cell := text.toUTF8.data.toList

def intText (n : Int) : String := String.ofList (Number.integerText n)

def flagText (flag : Bool) : String := if flag then "true" else "false"

/-- The text of a value that may be absent. -/
def optionText {α : Type} (text : α → String) (value : Option α) : String := value.elim "" text

/-- A cell is read as its text, less the white space at its ends. -/
@[simp] theorem trimmed_flagText (flag : Bool) : Text.trimmed (flagText flag) = flagText flag := by
  cases flag <;> decide +kernel

theorem text?_cellOf (text : String) : Cell.text? (cellOf text) = some (Text.trimmed text) := by
  have hvalid : text.toUTF8.IsValidUTF8 := text.isValidUTF8
  rw [Cell.text?, cellOf, Array.toArray_toList, String.fromUTF8?, dif_pos hvalid]
  rfl

theorem texts?_map_cellOf (texts : List String) :
    Record.texts? (texts.map cellOf) = some (texts.map Text.trimmed) := by
  induction texts with
  | nil => rfl
  | cons text rest ih =>
    rw [Record.texts?] at ih
    simp [Record.texts?, text?_cellOf, ih]

/-! ## Integers -/

theorem toList_intText (n : Int) : (intText n).toList = Number.integerText n :=
  String.toList_ofList

theorem not_mem_integerText {c : Char} (hc : c ≠ '-' ∧ c.isDigit = false) (n : Int) :
    c ∉ Number.integerText n := by
  intro hmem
  obtain hminus | hdigit := Number.forall_mem_integerText hmem
  · exact hc.1 hminus
  · rw [hc.2] at hdigit
    cases hdigit

@[simp] theorem trimmed_intText (n : Int) : Text.trimmed (intText n) = intText n := by
  apply Text.trimmed_of_isTight
  apply Text.isTight_of_forall
  intro c hmem
  rw [toList_intText] at hmem
  obtain rfl | hdigit := Number.forall_mem_integerText hmem
  · decide
  · exact Text.isBlank_of_isDigit hdigit

theorem isEmpty_intText (n : Int) : (intText n).isEmpty = false := by
  rw [Bool.eq_false_iff, ne_eq, String.isEmpty_iff]
  intro hempty
  have hnil := congrArg String.toList hempty
  rw [toList_intText] at hnil
  exact Number.integerText_ne_nil n hnil

@[simp] theorem trimmed_optionText {α : Type} (value : Option α) (number : α → Int) :
    Text.trimmed (optionText (fun a => intText (number a)) value) =
      optionText (fun a => intText (number a)) value := by
  cases value with
  | none => exact Text.trimmed_of_isTight rfl
  | some a => exact trimmed_intText (number a)

theorem integerOf_intText {format : Number.IntegerFormat} (hbase : format.base = 10) {n : Int}
    (h : format.contains n = true) : integerOf format (intText n) = .ok n := by
  have hread := Number.IntegerFormat.read_integerText hbase h
  rw [integerOf, toList_intText]
  split
  · rename_i digits hcs
    have hx : 'x' ∈ Number.integerText n := by simp [hcs]
    exact absurd hx (not_mem_integerText (by decide) n)
  · rw [hread]
    rfl

theorem intText_ne {text : String} {c : Char} (hmem : c ∈ text.toList)
    (hc : c ≠ '-' ∧ c.isDigit = false) (n : Int) : intText n ≠ text := by
  rintro rfl
  rw [toList_intText] at hmem
  exact not_mem_integerText hc n hmem

theorem guess_intText {n : Int} (h : guessFormat.contains n = true) :
    guess (intText n) = .int n := by
  have hread := Number.IntegerFormat.read_integerText rfl h
  have htrue : 't' ∈ "true".toList := by decide
  have hfalse : 'f' ∈ "false".toList := by decide
  unfold guess
  split
  · exact absurd ‹_› (intText_ne htrue (by decide) n)
  · exact absurd ‹_› (intText_ne hfalse (by decide) n)
  · rw [toList_intText, hread]

end Csv

/-! ## Values -/

namespace RowFormat

open Number (contains_int64 contains_int32 contains_uint32)

theorem contains_guess (n : Int64) : Csv.guessFormat.contains n.toInt = true := by
  have hlow := n.le_toInt
  have hhigh := n.toInt_lt
  refine decide_eq_true ⟨?_, ?_⟩
  · simp only [Csv.guessFormat]
    omega
  · simp only [Csv.guessFormat]
    omega

theorem ofInt_toNat (n : UInt32) : UInt32.ofInt (n.toNat : Int) = n := by
  have hlt := n.toNat_lt
  apply UInt32.toNat_inj.mp
  simp only [UInt32.ofInt, UInt32.toNat_ofNat']
  omega

@[simp] theorem cell_int64 (n : Int64) : cell.int64 (Csv.intText n.toInt) = .ok n := by
  simp [cell, Csv.integerOf_intText rfl (contains_int64 n), Except.map]

@[simp] theorem cell_int32 (n : Int32) : cell.int32 (Csv.intText n.toInt) = .ok n := by
  simp [cell, Csv.integerOf_intText rfl (contains_int32 n), Except.map]

@[simp] theorem cell_uint32 (n : UInt32) : cell.uint32 (Csv.intText n.toNat) = .ok n := by
  simp [cell, Csv.integerOf_intText rfl (contains_uint32 n), Except.map, ofInt_toNat]

@[simp] theorem cell_optionalInt32 (value : Option Int32) :
    cell.optionalInt32 (Csv.optionText (fun n => Csv.intText n.toInt) value) = .ok value := by
  cases value with
  | none => rfl
  | some n =>
    simp [cell, Csv.optionText, Csv.optionalOf, Csv.isEmpty_intText,
      Csv.integerOf_intText rfl (contains_int32 n), Except.map]

@[simp] theorem cell_float (text : String) : cell.float text = Csv.floatOf text := rfl

@[simp] theorem cell_text (text : String) : cell.text text = .ok text := rfl

@[simp] theorem cell_flag (flag : Bool) : cell.flag (Csv.flagText flag) = .ok flag := by
  cases flag <;> rfl

@[simp] theorem cell_optionalId (value : Option Int64) :
    cell.optionalId (Csv.optionText (fun n => Csv.intText n.toInt) value) = .ok value := by
  cases value with
  | none => rfl
  | some n =>
    simp [cell, Csv.optionText, Csv.optionalIdOf, Csv.isEmpty_intText,
      Csv.guess_intText (contains_guess n), Json.asOptionalId, contains_int64 n]

end RowFormat

end Multimodal
