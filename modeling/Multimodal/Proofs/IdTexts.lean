import Mathlib.Algebra.Group.Int.Defs
import Multimodal.Proofs.Json.RowObjects
import Multimodal.Proofs.LenientValues

/-!
# Ids written as text

The station of a stop may be given as a JSON string.

* `Text.trimmed_eq_iff_wraps`: white space around the text is taken away, and nothing else.
* `Json.readsId_trimmed`: what is left is nothing, a decimal integer of sixty-four bits, or refused
  with a fault that names it.
* `Number.isDecimal_spelling`: zeros in front and a plus sign leave an integer what it is.
* `Json.asStopRow_insert`: the station may stand anywhere in the object of the stop.
* `Json.stations_from_text`: what this comes to.
-/
namespace Multimodal

/-! ## White space around a text -/

namespace Text

/-- A string is a text with white space around it. The text neither begins nor ends with any. -/
def Wraps (string text : String) : Prop :=
  isTight text = true ∧ ∃ front back, (∀ c ∈ front, isBlank c = true) ∧
    (∀ c ∈ back, isBlank c = true) ∧ string.toList = front ++ text.toList ++ back

theorem trimEnd_append {back : List Char} (h : ∀ c ∈ back, isBlank c = true) (cs : List Char) :
    trimEnd (cs ++ back) = trimEnd cs := by
  rw [trimEnd, List.reverse_append, List.dropWhile_append_of_pos, trimEnd]
  exact fun c hc => h c (List.mem_reverse.mp hc)

/-- White space around a text is trimmed away, and then what the text itself has at its ends. -/
theorem trim_surrounded {front back : List Char} (hfront : ∀ c ∈ front, isBlank c = true)
    (hback : ∀ c ∈ back, isBlank c = true) (cs : List Char) :
    trim (front ++ cs ++ back) = trim cs := by
  have hstart : trimStart (front ++ cs ++ back) = trimStart (cs ++ back) := by
    rw [trimStart, List.append_assoc, List.dropWhile_append_of_pos hfront, trimStart]
  rw [trim, hstart, trimStart, List.dropWhile_append]
  split
  · rename_i hempty
    -- nothing but white space
    rw [List.dropWhile_eq_nil_iff.mpr hback, trim, trimStart, List.isEmpty_iff.mp hempty]
  · rw [trimEnd_append hback, trim, trimStart]

/-- Trimming finds the one text that a string wraps. -/
theorem trimmed_eq_iff_wraps {string text : String} :
    trimmed string = text ↔ Wraps string text := by
  constructor
  · rintro rfl
    let rest := trimStart string.toList
    have hfront : string.toList = string.toList.takeWhile isBlank ++ rest :=
      List.takeWhile_append_dropWhile.symm
    have hback : rest = trimEnd rest ++ (rest.reverse.takeWhile isBlank).reverse := by
      rw [trimEnd, ← List.reverse_append, List.takeWhile_append_dropWhile, List.reverse_reverse]
    refine ⟨isTight_trimmed string, string.toList.takeWhile isBlank,
      (rest.reverse.takeWhile isBlank).reverse, fun c => List.mem_takeWhile_imp,
      fun c hc => List.mem_takeWhile_imp (List.mem_reverse.mp hc), ?_⟩
    rw [trimmed, String.toList_ofList, trim, List.append_assoc, ← hback]
    exact hfront
  · rintro ⟨htight, front, back, hfront, hback, hstring⟩
    rw [trimmed, hstring, trim_surrounded hfront hback]
    exact trimmed_of_isTight htight

end Text

/-! ## Spellings of an integer -/

namespace Number

/-- An integer in decimal, with zeros in front of its digits, and with a plus sign if one is wanted
and the integer is not negative. -/
def spelling (n : Int) (plus : Bool) (zeros : Nat) : List Char :=
  if n < 0 then '-' :: (List.replicate zeros '0' ++ digits n.natAbs)
  else (if plus then ['+'] else []) ++ (List.replicate zeros '0' ++ digits n.natAbs)

theorem IsDecimal.ne_nil {cs : List Char} {n : Int} (h : IsDecimal cs n) : cs ≠ [] := by
  cases h with
  | unsigned hsome _ => exact hsome
  | plus _ _ => exact List.cons_ne_nil _ _
  | minus _ _ => exact List.cons_ne_nil _ _

theorem IsDecimal.isBlank_eq_false {cs : List Char} {n : Int} (h : IsDecimal cs n) :
    ∀ c ∈ cs, Text.isBlank c = false := by
  have hdigit : ∀ c, isDigit c = true → Text.isBlank c = false :=
    fun c hc => Text.isBlank_of_isDigit ((isDigit_eq c).trans hc)
  cases h with
  | unsigned _ hds => exact fun c hc => hdigit c (hds c hc)
  | plus _ hds => exact List.forall_mem_cons.mpr ⟨by decide, fun c hc => hdigit c (hds c hc)⟩
  | minus _ hds => exact List.forall_mem_cons.mpr ⟨by decide, fun c hc => hdigit c (hds c hc)⟩

theorem digitsValue_zeros (zeros : Nat) (ds : List Char) :
    digitsValue (List.replicate zeros '0' ++ ds) = digitsValue ds := by
  induction zeros with
  | zero => rfl
  | succ zeros ih =>
    rw [List.replicate_succ, List.cons_append, ← ih]
    rfl

theorem isDecimal_spelling (n : Int) (plus : Bool) (zeros : Nat) :
    IsDecimal (spelling n plus zeros) n := by
  have hsome : List.replicate zeros '0' ++ digits n.natAbs ≠ [] := by
    have hdigits : digits n.natAbs ≠ [] := Nat.toDigits_ne_nil
    simp [hdigits]
  have hdigits : ∀ c ∈ List.replicate zeros '0' ++ digits n.natAbs, isDigit c = true := by
    intro c hc
    obtain hzero | hdigit := List.mem_append.mp hc
    · rw [(List.mem_replicate.mp hzero).2]
      rfl
    · exact isDigit_of_mem_digits hdigit
  have hvalue : digitsValue (List.replicate zeros '0' ++ digits n.natAbs) = n.natAbs := by
    rw [digitsValue_zeros, digitsValue_digits]
  by_cases hneg : n < 0
  · have h := IsDecimal.minus hsome hdigits
    have hn : -(n.natAbs : Int) = n := by omega
    rw [hvalue, hn] at h
    simpa [spelling, hneg] using h
  · have hn : (n.natAbs : Int) = n := by omega
    cases plus with
    | true =>
      have h := IsDecimal.plus hsome hdigits
      rw [hvalue, hn] at h
      simpa [spelling, hneg] using h
    | false =>
      have h := IsDecimal.unsigned hsome hdigits
      rw [hvalue, hn] at h
      simpa [spelling, hneg] using h

example : spelling (-7) true 2 = "-007".toList ∧ spelling 7 true 2 = "+007".toList := by decide

end Number

/-! ## Texts as ids -/

namespace Json

open Number (IsDecimal int64Format spelling)

/-- How a text without white space at its ends is read as an id: not at all if it is empty, as the
integer of sixty-four bits that it is, and otherwise with a fault that names it. -/
structure ReadsId (text : String) (result : Decoded (Option Int64)) : Prop where
  absent : result = .ok none ↔ text = ""
  present : ∀ n : Int, (∃ id : Int64, result = .ok (some id) ∧ id.toInt = n) ↔
    IsDecimal text.toList n ∧ -2 ^ 63 ≤ n ∧ n ≤ 2 ^ 63 - 1
  refused : (∃ fault, result = .error fault) ↔
    text ≠ "" ∧ ∀ n, IsDecimal text.toList n → n < -2 ^ 63 ∨ 2 ^ 63 - 1 < n
  named : ∀ fault, result = .error fault → ∃ cause : Number.IntegerFault,
    fault.detail = some ("invalid id '" ++ text ++ "': " ++ cause.message)
  tooLarge : ∀ n, IsDecimal text.toList n → 2 ^ 63 - 1 < n → ∃ fault, result = .error fault ∧
    fault.detail = some ("invalid id '" ++ text ++ "': number too large to fit in target type")
  tooSmall : ∀ n, IsDecimal text.toList n → n < -2 ^ 63 → ∃ fault, result = .error fault ∧
    fault.detail = some ("invalid id '" ++ text ++ "': number too small to fit in target type")

theorem isId_iff {text : String} {n : Int} :
    IsId text n ↔ IsDecimal text.toList n ∧ -2 ^ 63 ≤ n ∧ n ≤ 2 ^ 63 - 1 :=
  and_congr_right fun _ => decide_eq_true_iff

theorem asOptionalId_str_eq_none_iff {string : String} :
    asOptionalId (.str string) = .ok none ↔ Text.trimmed string = "" := by
  rw [asOptionalId_str_eq_ok_iff, SaysId]
  simp

theorem asOptionalId_str_eq_some_iff {string : String} {id : Int64} :
    asOptionalId (.str string) = .ok (some id) ↔
      IsDecimal (Text.trimmed string).toList id.toInt := by
  rw [asOptionalId_str_eq_ok_iff, SaysId]
  constructor
  · rintro (⟨-, hnone⟩ | ⟨n, hn, hid⟩)
    · cases hnone
    · obtain ⟨hdecimal, hlow, hhigh⟩ := isId_iff.mp hn
      rwa [Option.some.inj hid, Int64.toInt_ofInt_of_le hlow (by omega)]
  · intro h
    have hlow := id.le_toInt
    have hhigh := id.toInt_lt
    exact .inr ⟨id.toInt, isId_iff.mpr ⟨h, hlow, by omega⟩, by rw [Int64.ofInt_toInt]⟩

/-- A decimal integer of more bits is reported on the side where it is too far out. -/
theorem asOptionalId_str_of_overflow {string : String} {n : Int}
    (h : IsDecimal (Text.trimmed string).toList n) :
    (2 ^ 63 - 1 < n →
      asOptionalId (.str string) = .error (.id (Text.trimmed string) .tooLarge)) ∧
    (n < -2 ^ 63 →
      asOptionalId (.str string) = .error (.id (Text.trimmed string) .tooSmall)) := by
  have hsome : Text.trimmed string ≠ "" := by
    intro hempty
    rw [hempty] at h
    exact h.ne_nil rfl
  have hleast : int64Format.least = -2 ^ 63 := rfl
  have hgreatest : int64Format.greatest = 2 ^ 63 - 1 := rfl
  have hread := Number.IntegerFormat.read_of_isDecimal (f := int64Format) rfl (by decide)
    (by decide) h
  rw [hleast, hgreatest] at hread
  rw [asOptionalId, idOfText]
  simp only [String.isEmpty_iff, hsome, if_false, hread]
  constructor
  · intro hlarge
    rw [if_neg (by omega), if_pos hlarge]
  · intro hsmall
    rw [if_pos hsmall]

/-- A text that is refused is named. -/
theorem fault_of_asOptionalId_str {string : String} {fault : DecodeFault}
    (h : asOptionalId (.str string) = .error fault) :
    ∃ cause, fault = .id (Text.trimmed string) cause := by
  rw [asOptionalId, idOfText] at h
  split at h
  · cases h
  · split at h
    · cases h
    · exact ⟨_, (Except.error.inj h).symm⟩

theorem detail_id (text : String) (cause : Number.IntegerFault) :
    (DecodeFault.id text cause).detail =
      some ("invalid id '" ++ text ++ ("': " ++ cause.message)) := by
  rw [DecodeFault.detail, String.append_assoc]

/-- A text is an id if it is a decimal integer of sixty-four bits, and then of its value. -/
theorem exists_asOptionalId_str_iff {string : String} {n : Int} :
    (∃ id : Int64, asOptionalId (.str string) = .ok (some id) ∧ id.toInt = n) ↔
      IsDecimal (Text.trimmed string).toList n ∧ -2 ^ 63 ≤ n ∧ n ≤ 2 ^ 63 - 1 := by
  constructor
  · rintro ⟨id, hid, rfl⟩
    have hlow := id.le_toInt
    have hhigh := id.toInt_lt
    exact ⟨asOptionalId_str_eq_some_iff.mp hid, hlow, by omega⟩
  · rintro ⟨hn, hlow, hhigh⟩
    have hint := Int64.toInt_ofInt_of_le hlow (by omega)
    exact ⟨Int64.ofInt n, asOptionalId_str_eq_some_iff.mpr (hint.symm ▸ hn), hint⟩

/-- Every other text is refused. -/
theorem asOptionalId_str_eq_error_iff {string : String} :
    (∃ fault, asOptionalId (.str string) = .error fault) ↔ Text.trimmed string ≠ "" ∧
      ∀ n, IsDecimal (Text.trimmed string).toList n → n < -2 ^ 63 ∨ 2 ^ 63 - 1 < n := by
  constructor
  · rintro ⟨fault, hfault⟩
    refine ⟨fun hempty => ?_, fun n hn => ?_⟩
    · rw [asOptionalId_str_eq_none_iff.mpr hempty] at hfault
      cases hfault
    · by_contra hin
      obtain ⟨id, hid, -⟩ := exists_asOptionalId_str_iff.mpr ⟨hn, by omega, by omega⟩
      rw [hid] at hfault
      cases hfault
  · rintro ⟨hsome, hout⟩
    match h : asOptionalId (.str string) with
    | .error fault => exact ⟨fault, rfl⟩
    | .ok none => exact absurd (asOptionalId_str_eq_none_iff.mp h) hsome
    | .ok (some id) =>
      obtain ⟨hdecimal, hlow, hhigh⟩ := exists_asOptionalId_str_iff.mp ⟨id, h, rfl⟩
      have := hout _ hdecimal
      omega

theorem readsId_trimmed (string : String) :
    ReadsId (Text.trimmed string) (asOptionalId (.str string)) where
  absent := asOptionalId_str_eq_none_iff
  present := fun _ => exists_asOptionalId_str_iff
  refused := asOptionalId_str_eq_error_iff
  named := by
    intro fault hfault
    obtain ⟨cause, rfl⟩ := fault_of_asOptionalId_str hfault
    exact ⟨cause, rfl⟩
  tooLarge := fun _ hn h => ⟨_, (asOptionalId_str_of_overflow hn).1 h, detail_id _ .tooLarge⟩
  tooSmall := fun _ hn h => ⟨_, (asOptionalId_str_of_overflow hn).2 h, detail_id _ .tooSmall⟩

/-- A decimal integer of sixty-four bits is read as the id, whatever white space is around it. -/
theorem asOptionalId_of_isDecimal {cs : List Char} {id : Int64} (h : IsDecimal cs id.toInt)
    {front back : List Char} (hfront : ∀ c ∈ front, Text.isBlank c = true)
    (hback : ∀ c ∈ back, Text.isBlank c = true) :
    asOptionalId (.str (String.ofList (front ++ cs ++ back))) = .ok (some id) := by
  have htight : Text.isTight (String.ofList cs) = true := by
    apply Text.isTight_of_forall
    rw [String.toList_ofList]
    exact h.isBlank_eq_false
  have htrimmed : Text.trimmed (String.ofList (front ++ cs ++ back)) = String.ofList cs :=
    Text.trimmed_eq_iff_wraps.mpr
      ⟨htight, front, back, hfront, hback, by rw [String.toList_ofList, String.toList_ofList]⟩
  rw [asOptionalId_str_eq_some_iff, htrimmed, String.toList_ofList]
  exact h

/-! ## The station of a stop -/

/-- The object of a stop with a station in it says of the station what the value says as an id, and
otherwise what it says without. If the value is no id, that is what is wrong with the object. -/
theorem asStopRow_insert (v : Json) {before after : List (String × Json)} {row : StopRow}
    (hnames : ∀ m ∈ before ++ after, m.1 ≠ "parent_station")
    (hrow : asStopRow (.obj (before ++ after)) = .ok row) :
    asStopRow (.obj (before ++ ("parent_station", v) :: after)) =
      (asOptionalId v).map fun id => { row with parentStation := id } := by
  refine @RecordField.readNamed_insert _ _ _ (StopRow.fields .json) _
    (RecordField.defaulted "parent_station" RowFormat.json.optionalId
      fun id r => { r with parentStation := id })
    asOptionalId (fun id r => { r with parentStation := id }) rfl (fun _ _ => rfl) ?_ v after
    before [] {} row hnames List.not_mem_nil hrow
  intro id other hother hname
  simp only [StopRow.fields, List.mem_cons, List.not_mem_nil, or_false] at hother
  obtain rfl | rfl | rfl | rfl | rfl | rfl | rfl := hother
  all_goals first
    | exact RecordField.passesBy_defaulted fun _ _ => rfl
    | exact absurd rfl hname

/-- The station of a stop, given as text. What is left of the text without the white space around it
is no id if it is empty, and otherwise an id exactly if it is a decimal integer of sixty-four bits,
with that value; an integer of more bits is reported by the side on which it lies. Zeros in front, a
plus sign and white space make no difference: the text is read as the integer itself is. Wherever
the station stands in the object of a stop, it is read so, and the rest of the stop as without. -/
theorem stations_from_text :
    (∀ string : String, Text.Wraps string (Text.trimmed string) ∧
      ReadsId (Text.trimmed string) (asOptionalId (.str string))) ∧
    (∀ (n : Int64) (plus : Bool) (zeros : Nat) (front back : List Char),
      (∀ c ∈ front, Text.isBlank c = true) → (∀ c ∈ back, Text.isBlank c = true) →
      asOptionalId (.str (String.ofList (front ++ spelling n.toInt plus zeros ++ back))) =
          asOptionalId (ofInt64 n) ∧
        asOptionalId (ofInt64 n) = .ok (some n)) ∧
    ∀ (v : Json) (before after : List (String × Json)) (row : StopRow),
      (∀ m ∈ before ++ after, m.1 ≠ "parent_station") →
      asStopRow (.obj (before ++ after)) = .ok row →
      asStopRow (.obj (before ++ ("parent_station", v) :: after)) =
        (asOptionalId v).map fun id => { row with parentStation := id } := by
  refine ⟨fun string => ⟨Text.trimmed_eq_iff_wraps.mp rfl, readsId_trimmed string⟩, ?_,
    fun v _ _ _ hnames hrow => asStopRow_insert v hnames hrow⟩
  intro n plus zeros front back hfront hback
  have hinteger : asOptionalId (ofInt64 n) = .ok (some n) := RowFormat.json_optionalId (some n)
  have hdecimal := Number.isDecimal_spelling n.toInt plus zeros
  exact ⟨(asOptionalId_of_isDecimal hdecimal hfront hback).trans hinteger.symm, hinteger⟩

theorem stations_from_text_quay :
    asStopRow (.obj [("id", .int 7), ("parent_station", .str "\u00a0+0100\n"),
        ("name", .str "Quay")]) = .ok { id := 7, name := "Quay", parentStation := some 100 } ∧
      asOptionalId (.str "-0009223372036854775808 ") = .ok (some Int64.minValue) ∧
      ∃ fault, asOptionalId (.str " 9223372036854775808") = .error fault ∧ fault.detail =
        some "invalid id '9223372036854775808': number too large to fit in target type" := by
  obtain ⟨htexts, hspellings, hstops⟩ := stations_from_text
  have hplus := hspellings 100 true 1 ['\u00a0'] ['\n']
    (List.forall_mem_singleton.mpr rfl) (List.forall_mem_singleton.mpr rfl)
  have hleast := hspellings Int64.minValue false 3 [] [' ']
    (List.forall_mem_nil _) (List.forall_mem_singleton.mpr rfl)
  have hstop := hstops (.str "\u00a0+0100\n") [("id", .int 7)] [("name", .str "Quay")]
    { id := 7, name := "Quay" } (by simp) rfl
  have hdecimal : IsDecimal (Text.trimmed " 9223372036854775808").toList 9223372036854775808 :=
    Number.isDecimal_spelling 9223372036854775808 false 0
  refine ⟨?_, hleast.1.trans hleast.2, (htexts _).2.tooLarge _ hdecimal (by decide)⟩
  exact hstop.trans (congrArg (Except.map _) (hplus.1.trans hplus.2))

end Json

end Multimodal
