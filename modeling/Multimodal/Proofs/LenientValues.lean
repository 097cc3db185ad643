import Mathlib.Data.List.DropRight
import Multimodal.Proofs.Csv.Cells
import Multimodal.Proofs.IntegerGrammar

/-!
# One text in a cell and in a JSON string

Flags and ids that may be absent are stored in several spellings. A JSON string is looked at as
text, while of a cell it is guessed first whether it is a truth value, an integer or a double.

* `Json.asOptionalId_str_eq_ok_iff`, `Csv.optionalIdOf_eq_ok_iff`: as an id, either way, a text is
  absent if it is empty and otherwise a decimal integer of sixty-four bits.
* `Json.asFlag_str_eq_ok_iff`, `Csv.flagOf_eq_ok_iff`: as a flag it is one of the words, and in a
  cell also such an integer.
* `cell_agrees_with_string`: what this comes to for one text in a cell and in a string.
-/
namespace Multimodal

namespace Text

theorem all_head?_dropWhile (cs : List Char) :
    (cs.dropWhile isBlank).head?.all (!isBlank ·) = true := by
  have hhead := List.head?_dropWhile_not isBlank cs
  cases h : (cs.dropWhile isBlank).head? with
  | none => rfl
  | some c =>
    rw [h] at hhead
    simp [hhead]

/-- Trimming leaves no white space at the ends. -/
theorem isTight_trimmed (s : String) : isTight (trimmed s) = true := by
  rw [trimmed, isTight, String.toList_ofList, Bool.and_eq_true]
  constructor
  · have hprefix : trim s.toList <+: trimStart s.toList := List.rdropWhile_prefix isBlank _
    have hstart := all_head?_dropWhile s.toList
    cases htrim : trim s.toList with
    | nil => rfl
    | cons c rest =>
      obtain ⟨tail, htail⟩ := hprefix
      rw [htrim, List.cons_append] at htail
      rw [← trimStart, ← htail] at hstart
      exact hstart
  · rw [trim, trimEnd, List.getLast?_reverse]
    exact all_head?_dropWhile _

theorem trimmed_trimmed (s : String) : trimmed (trimmed s) = trimmed s :=
  trimmed_of_isTight (isTight_trimmed s)

end Text

open Number (IsDecimal int64Format float?)

/-! ## Integers -/

def IsId (text : String) (n : Int) : Prop :=
  IsDecimal text.toList n ∧ int64Format.contains n = true

theorem int64Format_read_eq_ok_iff {text : String} {n : Int} :
    int64Format.read text.toList = .ok n ↔ IsId text n :=
  Number.IntegerFormat.read_eq_ok_iff rfl (by decide) (by decide)

theorem IsId.ne_empty {text : String} {n : Int} (h : IsId text n) : text ≠ "" := by
  rintro rfl
  cases int64Format_read_eq_ok_iff.mpr h

/-! ## Ids -/

/-- What a text says as an id: nothing if it is empty, and otherwise its integer. -/
def SaysId (text : String) (id : Option Int64) : Prop :=
  (text = "" ∧ id = none) ∨ ∃ n, IsId text n ∧ id = some (Int64.ofInt n)

theorem Json.idOfText_eq_ok_iff {text : String} {id : Option Int64} :
    idOfText text = .ok id ↔ SaysId (Text.trimmed text) id := by
  rw [idOfText, SaysId]
  by_cases hempty : Text.trimmed text = ""
  · have hno : ∀ n, ¬IsId "" n := fun n h => h.ne_empty rfl
    simp [hempty, hno, @eq_comm _ none id]
  · simp only [String.isEmpty_iff, hempty, if_false, false_and, false_or,
      ← int64Format_read_eq_ok_iff]
    cases int64Format.read (Text.trimmed text).toList <;> simp [eq_comm]

/-- A JSON string is the id that its text says, white space aside. -/
theorem Json.asOptionalId_str_eq_ok_iff {text : String} {id : Option Int64} :
    asOptionalId (.str text) = .ok id ↔ SaysId (Text.trimmed text) id := by
  rw [asOptionalId, idOfText_eq_ok_iff]

namespace Csv

/-- What a guess can be. -/
theorem guess_cases (text : String) :
    (∃ b, guess text = .bool b ∧ (text = "true" ∧ b = true ∨ text = "false" ∧ b = false)) ∨
      (∃ n, guess text = .int n ∧ IsDecimal text.toList n) ∨
      (∃ x, guess text = .real x) ∨ guess text = .str text := by
  unfold guess
  split
  · exact .inl ⟨true, rfl, .inl ⟨rfl, rfl⟩⟩
  · exact .inl ⟨false, rfl, .inr ⟨rfl, rfl⟩⟩
  · split
    · rename_i n hread
      have hdecimal := (Number.IntegerFormat.read_eq_ok_iff rfl (by decide) (by decide)).mp hread
      exact .inr (.inl ⟨n, rfl, hdecimal.1⟩)
    · split
      · exact .inr (.inr (.inl ⟨_, rfl⟩))
      · exact .inr (.inr (.inr rfl))

/-- Integers of sixty-four bits are guessed to be integers. -/
theorem guess_of_isId {text : String} {n : Int} (h : IsId text n) : guess text = .int n := by
  have hcontains := of_decide_eq_true h.2
  simp only [int64Format] at hcontains
  have hwide : guessFormat.contains n = true := by
    refine decide_eq_true ?_
    simp only [guessFormat]
    omega
  have hread : guessFormat.read text.toList = .ok n :=
    (Number.IntegerFormat.read_eq_ok_iff rfl (by decide) (by decide)).mpr ⟨h.1, hwide⟩
  unfold guess
  split
  · cases hread
  · cases hread
  · rw [hread]

/-- A cell is the id that its text says. -/
theorem optionalIdOf_eq_ok_iff {text : String} (htrimmed : Text.trimmed text = text)
    {id : Option Int64} : optionalIdOf text = .ok id ↔ SaysId text id := by
  rw [optionalIdOf, SaysId]
  by_cases hempty : text = ""
  · have hno : ∀ n, ¬IsId "" n := fun n h => h.ne_empty rfl
    simp [hempty, hno, @eq_comm _ none id]
  simp only [String.isEmpty_iff, hempty, if_false, false_and, false_or]
  constructor
  · intro h
    obtain ⟨b, hguess, -⟩ | ⟨n, hguess, hn⟩ | ⟨x, hguess⟩ | hguess := guess_cases text
    · rw [hguess] at h
      cases h
    · rw [hguess, Json.asOptionalId] at h
      split at h
      · rename_i hin
        exact ⟨n, ⟨hn, hin⟩, (Except.ok.inj h).symm⟩
      · cases h
    · rw [hguess] at h
      cases h
    · rw [hguess, Json.asOptionalId_str_eq_ok_iff, htrimmed, SaysId] at h
      exact h.resolve_left fun hnone => hempty hnone.1
  · rintro ⟨n, hn, rfl⟩
    rw [guess_of_isId hn, Json.asOptionalId, if_pos hn.2]

end Csv

/-! ## Flags -/

namespace Json

def flagWords : List (String × Bool) :=
  [("", false), ("0", false), ("f", false), ("F", false), ("false", false), ("False", false),
    ("FALSE", false), ("n", false), ("no", false), ("1", true), ("t", true), ("T", true),
    ("true", true), ("True", true), ("TRUE", true), ("y", true), ("yes", true)]

theorem flagText?_eq_some_iff {text : String} {b : Bool} :
    flagText? text = some b ↔ (Text.trimmed text, b) ∈ flagWords := by
  unfold flagText?
  split <;> simp_all [flagWords, @eq_comm _ _ b]

/-- As a flag, a JSON string is one of the words, white space aside. -/
theorem asFlag_str_eq_ok_iff {text : String} {b : Bool} :
    asFlag (.str text) = .ok b ↔ (Text.trimmed text, b) ∈ flagWords := by
  rw [← flagText?_eq_some_iff, asFlag]
  cases flagText? text <;> simp

/-- Of the words only two look like numbers. -/
theorem isZeroOrOne_of_flagWords : ∀ w ∈ flagWords, w.1 = "0" ∨ w.1 = "1" ∨
    float? w.1.toList = none ∧
      (int64Format.read w.1.toList = .error .empty ∨
        int64Format.read w.1.toList = .error .invalidDigit) := by
  decide +kernel

/-- A word that is an integer is the spelling `0` or `1`. -/
theorem eq_of_isDecimal {text : String} {b : Bool} (hword : (text, b) ∈ flagWords) {n : Int}
    (h : IsDecimal text.toList n) : text = "0" ∧ n = 0 ∨ text = "1" ∧ n = 1 := by
  have hvalue : ∀ (other : String) (m : Int), IsId other m → text = other → n = m :=
    fun other m hm heq => h.unique (heq ▸ hm.1)
  obtain hzero | hone | ⟨-, hread⟩ := isZeroOrOne_of_flagWords _ hword
  · exact .inl ⟨hzero, hvalue "0" 0 (int64Format_read_eq_ok_iff.mp rfl) hzero⟩
  · exact .inr ⟨hone, hvalue "1" 1 (int64Format_read_eq_ok_iff.mp rfl) hone⟩
  · -- reading it fails for another reason than its size
    rw [Number.IntegerFormat.read_of_isDecimal rfl (by decide) (by decide) h] at hread
    split_ifs at hread <;> simp at hread

end Json

namespace Csv

theorem flagOf_of_mem : ∀ w ∈ Json.flagWords, flagOf w.1 = .ok w.2 := by
  decide +kernel

/-- As a flag, a cell is one of the words or a decimal integer. -/
theorem flagOf_eq_ok_iff {text : String} (htrimmed : Text.trimmed text = text) {b : Bool} :
    flagOf text = .ok b ↔ (text, b) ∈ Json.flagWords ∨ ∃ n, IsId text n ∧ b = (n != 0) := by
  constructor
  · intro h
    rw [flagOf] at h
    obtain ⟨c, hguess, hword⟩ | ⟨n, hguess, hn⟩ | ⟨x, hguess⟩ | hguess := guess_cases text
    · rw [hguess] at h
      cases h
      left
      obtain ⟨rfl, rfl⟩ | ⟨rfl, rfl⟩ := hword <;> decide
    · rw [hguess, Json.asFlag] at h
      split at h
      · rename_i hin
        exact .inr ⟨n, ⟨hn, hin⟩, (Except.ok.inj h).symm⟩
      · cases h
    · rw [hguess] at h
      cases h
    · rw [hguess, Json.asFlag_str_eq_ok_iff, htrimmed] at h
      exact .inl h
  · rintro (hword | ⟨n, hn, rfl⟩)
    · exact flagOf_of_mem _ hword
    · rw [flagOf, guess_of_isId hn, Json.asFlag, if_pos hn.2]

end Csv

/-! ## Both -/

theorem toOption_eq_some_iff {ε α : Type} {x : Except ε α} {a : α} :
    x.toOption = some a ↔ x = .ok a := by
  cases x <;> simp [Except.toOption]

theorem toOption_eq_none_iff {ε α : Type} {x : Except ε α} :
    x.toOption = none ↔ ∀ a, x ≠ .ok a := by
  cases x <;> simp [Except.toOption]

namespace RowFormat

variable {string text : String} (htrimmed : Text.trimmed text = text) {id : Option Int64} {b : Bool}

theorem cell_flag_eq (text : String) : cell.flag text = Csv.flagOf text := rfl

theorem cell_optionalId_eq (text : String) : cell.optionalId text = Csv.optionalIdOf text := rfl

theorem json_flag_eq (v : Json) : json.flag v = v.asFlag := rfl

theorem json_optionalId_eq (v : Json) : json.optionalId v = v.asOptionalId := rfl

include htrimmed in
theorem cell_optionalId_eq_ok_iff : cell.optionalId text = .ok id ↔ SaysId text id := by
  rw [cell_optionalId_eq, Csv.optionalIdOf_eq_ok_iff htrimmed]

include htrimmed in
theorem cell_flag_eq_ok_iff : cell.flag text = .ok b ↔
    (text, b) ∈ Json.flagWords ∨ ∃ n, IsId text n ∧ b = (n != 0) := by
  rw [cell_flag_eq, Csv.flagOf_eq_ok_iff htrimmed]

theorem json_optionalId_eq_ok_iff :
    json.optionalId (.str string) = .ok id ↔ SaysId (Text.trimmed string) id := by
  rw [json_optionalId_eq, Json.asOptionalId_str_eq_ok_iff]

theorem json_flag_eq_ok_iff :
    json.flag (.str string) = .ok b ↔ (Text.trimmed string, b) ∈ Json.flagWords := by
  rw [json_flag_eq, Json.asFlag_str_eq_ok_iff]

end RowFormat

open RowFormat

/-- How a JSON string and a cell that holds the same text, less the white space at its ends, are
read. -/
structure ReadAlike (string text : String) : Prop where
  /-- As an id both are the same, or neither is one. -/
  id : (cell.optionalId text).toOption = (json.optionalId (.str string)).toOption
  /-- What the string is as a flag, the cell is as well. -/
  flag : ∀ b, json.flag (.str string) = .ok b → cell.flag text = .ok b
  /-- The cell alone is a flag if it is an integer in another spelling than `0` and `1`. -/
  integer : ∀ b, cell.flag text = .ok b ∧ (json.flag (.str string)).toOption = none ↔
    (∃ n, IsId text n ∧ b = (n != 0)) ∧ text ≠ "0" ∧ text ≠ "1"
  /-- A double that is no integer, or an integer of more bits, is neither a flag nor an id. -/
  number : ((float? text.toList).isSome = true ∨ ∃ n, IsDecimal text.toList n) →
    (∀ n, ¬IsId text n) →
      (cell.optionalId text).toOption = none ∧ (json.optionalId (.str string)).toOption = none ∧
        (cell.flag text).toOption = none ∧ (json.flag (.str string)).toOption = none
  /-- No flag is one thing in the cell and the other in the string. -/
  same : ∀ b c, cell.flag text = .ok b → json.flag (.str string) = .ok c → b = c

theorem Json.not_mem_flagWords {text : String}
    (hnumber : (float? text.toList).isSome = true ∨ ∃ n, IsDecimal text.toList n)
    (hid : ∀ n, ¬IsId text n) (b : Bool) : (text, b) ∉ flagWords := by
  intro hword
  obtain rfl | rfl | ⟨hfloat, -⟩ := isZeroOrOne_of_flagWords _ hword
  · exact hid 0 (int64Format_read_eq_ok_iff.mp rfl)
  · exact hid 1 (int64Format_read_eq_ok_iff.mp rfl)
  · obtain hsome | ⟨n, hn⟩ := hnumber
    · rw [hfloat] at hsome
      cases hsome
    · obtain ⟨rfl, rfl⟩ | ⟨rfl, rfl⟩ := eq_of_isDecimal hword hn
      · exact hid 0 (int64Format_read_eq_ok_iff.mp rfl)
      · exact hid 1 (int64Format_read_eq_ok_iff.mp rfl)

theorem readAlike_trimmed (string : String) : ReadAlike string (Text.trimmed string) := by
  have htrimmed := Text.trimmed_trimmed string
  have hflag : ∀ b, json.flag (.str string) = .ok b →
      cell.flag (Text.trimmed string) = .ok b :=
    fun b hb => (cell_flag_eq_ok_iff htrimmed).mpr (.inl (json_flag_eq_ok_iff.mp hb))
  refine ⟨?_, hflag, ?_, ?_, ?_⟩
  · ext id
    rw [toOption_eq_some_iff, toOption_eq_some_iff, cell_optionalId_eq_ok_iff htrimmed,
      json_optionalId_eq_ok_iff]
  · intro b
    rw [toOption_eq_none_iff]
    constructor
    · rintro ⟨hcell, hjson⟩
      have hword : ∀ c, (Text.trimmed string, c) ∉ Json.flagWords :=
        fun c hc => hjson c (json_flag_eq_ok_iff.mpr hc)
      refine ⟨((cell_flag_eq_ok_iff htrimmed).mp hcell).resolve_left (hword b), ?_, ?_⟩
      · intro hzero
        exact hword false (by rw [hzero]; decide)
      · intro hone
        exact hword true (by rw [hone]; decide)
    · rintro ⟨⟨n, hn, rfl⟩, hzero, hone⟩
      refine ⟨(cell_flag_eq_ok_iff htrimmed).mpr (.inr ⟨n, hn, rfl⟩), fun c hc => ?_⟩
      obtain ⟨heq, -⟩ | ⟨heq, -⟩ := Json.eq_of_isDecimal (json_flag_eq_ok_iff.mp hc) hn.1
      · exact hzero heq
      · exact hone heq
  · intro hnumber hid
    have hword := Json.not_mem_flagWords hnumber hid
    have hempty : Text.trimmed string ≠ "" := fun heq => hword false (by rw [heq]; decide)
    have hno : ∀ id, ¬SaysId (Text.trimmed string) id := by
      rintro id (⟨heq, -⟩ | ⟨n, hn, -⟩)
      · exact hempty heq
      · exact hid n hn
    simp only [toOption_eq_none_iff]
    refine ⟨fun id h => hno id ((cell_optionalId_eq_ok_iff htrimmed).mp h),
      fun id h => hno id (json_optionalId_eq_ok_iff.mp h), fun b h => ?_,
      fun b h => hword b (json_flag_eq_ok_iff.mp h)⟩
    obtain hmem | ⟨n, hn, -⟩ := (cell_flag_eq_ok_iff htrimmed).mp h
    · exact hword b hmem
    · exact hid n hn
  · intro b c hb hc
    exact Except.ok.inj (hb.symm.trans (hflag c hc))

/-- A text is read alike where it stands in a cell, without the white space at its ends, and where
it is a JSON string: as an id it is the same or fails both ways; as a flag the cell takes all that
the string takes, with the same value, and besides only integers of sixty-four bits, which are true
unless they are zero. -/
theorem cell_agrees_with_string (string : String) :
    ∃ text, Csv.Cell.text? (Csv.cellOf string) = some text ∧ text = Text.trimmed string ∧
      ReadAlike string text :=
  ⟨_, Csv.text?_cellOf string, rfl, readAlike_trimmed string⟩

end Multimodal
