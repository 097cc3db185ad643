import Mathlib.Algebra.Group.Nat.Defs
import Multimodal.DateTime
import Multimodal.Proofs.IntegerText

/-!
# Dates as they are written and read

Every moment is read back from its text form (`DateTime.read?_text`), leap seconds and years of more
than four digits included. Written numbers have the width that is read for them, so nothing between
them is mistaken for a part of one.
-/
namespace Multimodal.DateTime

open Number (digits digitsValue isDigit spanDigits)

theorem isBlank_of_isDigit {c : Char} (h : isDigit c = true) : Text.isBlank c = false := by
  have hrange : 48 ≤ c.toNat ∧ c.toNat ≤ 57 := by
    simp only [isDigit, decide_eq_true_eq] at h
    exact h
  simp only [Text.isBlank, Text.blankRanges, List.any_cons, List.any_nil, Bool.or_false,
    Bool.or_eq_false_iff, decide_eq_false_iff_not]
  omega

theorem trimStart_cons {c : Char} (h : Text.isBlank c = false) (rest : List Char) :
    Text.trimStart (c :: rest) = c :: rest := by
  rw [Text.trimStart, List.dropWhile_cons, h, if_neg Bool.false_ne_true]

theorem readMark_cons (mark : Char) (h : Text.isBlank mark = false) (rest : List Char) :
    readMark mark (mark :: rest) = some rest := by
  rw [readMark, trimStart_cons h]
  exact if_pos rfl

/-! ## Numbers of a fixed width -/

theorem isDigit_of_mem_padded {width n : Nat} {c : Char} (h : c ∈ padded width n) :
    isDigit c = true := by
  rcases List.mem_append.mp h with hzero | hdigit
  · rw [List.eq_of_mem_replicate hzero]
    rfl
  · exact Number.isDigit_of_mem_digits hdigit

theorem digitsValue_padded (width n : Nat) : digitsValue (padded width n) = n := by
  have hzeros : ∀ k,
      (List.replicate k '0').foldl (fun n c => 10 * n + Number.digitValue c) 0 = 0 := by
    intro k
    induction k with
    | zero => rfl
    | succ k ih => exact ih
  rw [padded, digitsValue, List.foldl_append, hzeros]
  exact Number.digitsValue_digits n

theorem length_padded {width n : Nat} (h : n < 10 ^ width) (hwidth : 0 < width) :
    (padded width n).length = width := by
  have hdigits : (digits n).length ≤ width :=
    (Nat.length_toDigits_le_iff (by decide) hwidth).mpr h
  rw [padded, List.length_append, List.length_replicate]
  omega

theorem padded_eq_cons (width n : Nat) : ∃ c ds, padded width n = c :: ds ∧ isDigit c = true := by
  have hdigits : digits n ≠ [] := Nat.toDigits_ne_nil
  cases hcs : padded width n with
  | nil => exact absurd (List.append_eq_nil_iff.mp hcs).2 hdigits
  | cons c ds => exact ⟨c, ds, rfl, isDigit_of_mem_padded (hcs ▸ List.mem_cons_self)⟩

theorem trimStart_padded (width n : Nat) (rest : List Char) :
    Text.trimStart (padded width n ++ rest) = padded width n ++ rest := by
  obtain ⟨c, ds, hcs, hdigit⟩ := padded_eq_cons width n
  rw [hcs]
  exact trimStart_cons (isBlank_of_isDigit hdigit) _

/-- A number that fills the width that is read for it is read, whatever follows it. -/
theorem readNumber_padded {width n : Nat} (h : n < 10 ^ width) (hwidth : 0 < width)
    (rest : List Char) : readNumber width (padded width n ++ rest) = some (n, rest) := by
  have hlength := length_padded h hwidth
  have htake : (padded width n ++ rest).take width = padded width n := by
    rw [List.take_append_of_le_length (by omega), List.take_of_length_le (by omega)]
  have hdrop : (padded width n ++ rest).drop width = rest := by
    rw [List.drop_append_of_le_length (by omega), List.drop_of_length_le (by omega),
      List.nil_append]
  have hdigits : (padded width n).takeWhile isDigit = padded width n :=
    List.takeWhile_eq_self_iff.mpr fun _ => isDigit_of_mem_padded
  obtain ⟨c, ds, hcs, -⟩ := padded_eq_cons width n
  have hsome : (padded width n).isEmpty = false := by rw [hcs]; rfl
  simp only [readNumber, trimStart_padded, htake, hdigits, hsome, hlength, hdrop,
    digitsValue_padded, Bool.false_eq_true, if_false]

theorem spanDigits_padded (width n : Nat) {rest : List Char}
    (hrest : ∀ c ∈ rest.head?, isDigit c = false) :
    spanDigits (padded width n ++ rest) = (padded width n, rest) := by
  have hspan : spanDigits (padded width n) = (padded width n, []) :=
    Number.spanDigits_of_isDigit fun _ => isDigit_of_mem_padded
  exact Number.spanDigits_append hspan hrest

/-! ## Years and fractions -/

theorem readSigned_padded (width n : Nat) {rest : List Char}
    (hrest : ∀ c ∈ rest.head?, isDigit c = false) :
    readSigned (padded width n ++ rest) = some (n, rest) := by
  rw [readSigned, spanDigits_padded width n hrest]
  split
  · rename_i heq
    obtain ⟨c, ds, hcs, -⟩ := padded_eq_cons width n
    rw [hcs] at heq
    cases heq
  · rename_i heq
    cases heq
    rw [digitsValue_padded]

theorem readYear_yearText (year : Int) (rest : List Char) :
    readYear (yearText year ++ '-' :: rest) = some (year, '-' :: rest) := by
  have hmark : ∀ c ∈ ('-' :: rest).head?, isDigit c = false := by
    intro c hc
    obtain rfl := Option.some.inj hc
    rfl
  rw [yearText]
  split
  · have hvalue : -(year.natAbs : Int) = year := by omega
    rw [List.cons_append, readYear, trimStart_cons rfl]
    simp only [readSigned_padded 4 _ hmark, Option.map_some, hvalue]
  · have hvalue : (year.natAbs : Int) = year := by omega
    split
    · have hread := @readNumber_padded 4 year.natAbs (by omega) (by decide) ('-' :: rest)
      obtain ⟨c, ds, hcs, hdigit⟩ := padded_eq_cons 4 year.natAbs
      rw [readYear, trimStart_padded]
      split
      · rename_i heq
        rw [hcs] at heq
        obtain rfl := (List.cons.inj heq).1
        cases hdigit
      · rename_i heq
        rw [hcs] at heq
        obtain rfl := (List.cons.inj heq).1
        cases hdigit
      · simp only [hread, Option.map_some, hvalue]
    · rw [List.cons_append, readYear, trimStart_cons rfl]
      simp only [readSigned_padded 4 _ hmark, Option.map_some, hvalue]

/-- A fraction of at most nine digits is read to the nanosecond. -/
theorem readFraction_padded {width n : Nat} (h : n < 10 ^ width) (hwidth : 0 < width)
    (hnine : width ≤ 9) :
    readFraction ('.' :: padded width n) = some (n * 10 ^ (9 - width), []) := by
  have hspan := @spanDigits_padded width n [] nofun
  have hlength := length_padded h hwidth
  have htake : (padded width n).take 9 = padded width n := List.take_of_length_le (by omega)
  rw [List.append_nil] at hspan
  rw [readFraction, hspan]
  split
  · rename_i heq
    obtain ⟨c, ds, hcs, -⟩ := padded_eq_cons width n
    rw [hcs] at heq
    cases heq
  · rename_i heq
    cases heq
    simp only [htake, hlength, digitsValue_padded]
    rfl

theorem readFraction_fractionText {nanosecond : Nat} (h : nanosecond < 1000000000) :
    readFraction (fractionText nanosecond) = some (nanosecond, []) := by
  rw [fractionText]
  split
  · rename_i hzero
    rw [hzero]
    rfl
  · split
    · rw [readFraction_padded (by omega) (by decide) (by decide)]
      congr 2
      omega
    · split
      · rw [readFraction_padded (by omega) (by decide) (by decide)]
        congr 2
        omega
      · rw [readFraction_padded (by omega) (by decide) (by decide)]
        congr 2
        omega

/-! ## Whole dates -/

theorem month_lt_of_day {year : Int} {month : Nat} (h : 0 < daysInMonth year month) :
    month < 13 := by
  unfold daysInMonth at h
  split at h <;> omega

theorem daysInMonth_le (year : Int) (month : Nat) : daysInMonth year month ≤ 31 := by
  unfold daysInMonth
  split
  all_goals try split
  all_goals omega

theorem ofFields?_fields (t : DateTime) :
    ofFields? t.year t.month t.day t.hour t.minute t.second t.nanosecond = some t :=
  dif_pos t.valid

/-- Every moment is read back from its text. -/
theorem read?_text (t : DateTime) : read? t.text = some t := by
  have hvalid := t.valid
  simp only [isMoment, decide_eq_true_eq] at hvalid
  obtain ⟨-, -, hday, hdays, hhour, hminute, hsecond, hnanosecond⟩ := hvalid
  have hmonth : t.month < 13 := @month_lt_of_day t.year t.month (by omega)
  have hlast : t.day ≤ 31 := Nat.le_trans hdays (daysInMonth_le t.year t.month)
  have hnumber : ∀ {n : Nat} (rest : List Char), n < 100 →
      readNumber 2 (padded 2 n ++ rest) = some (n, rest) :=
    fun rest hn => readNumber_padded (by omega) (by decide) rest
  simp only [read?, text, String.toList_ofList, List.append_assoc, List.cons_append,
    readYear_yearText, Option.bind_eq_bind, Option.bind_some, readMark_cons '-' rfl,
    readMark_cons 'T' rfl, readMark_cons ':' rfl,
    hnumber _ (show t.month < 100 by omega), hnumber _ (show t.day < 100 by omega),
    hnumber _ (show t.hour < 100 by omega), hnumber _ (show t.minute < 100 by omega),
    hnumber _ (show t.second < 100 by omega), readFraction_fractionText hnanosecond,
    ofFields?_fields]
  rfl

end Multimodal.DateTime
