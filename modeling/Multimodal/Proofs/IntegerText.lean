import Mathlib.Data.List.TakeDrop
import Mathlib.Data.List.TakeWhile
import Multimodal.Number.Integer

/-!
# Reading the text of an integer

An integer in the range of a decimal format is read back from its text
(`IntegerFormat.read_integerText`). Digits are read from the first to the last, and with each the
magnitude grows, so if the whole is in range no part of it leaves the range.
-/
namespace Multimodal.Number

theorem forall_mem_integerText {n : Int} {c : Char} (h : c ∈ integerText n) :
    c = '-' ∨ c.isDigit = true := by
  have hdigit : c ∈ digits n.natAbs → c.isDigit = true :=
    Nat.isDigit_of_mem_toDigits (by decide) (by decide)
  rw [integerText] at h
  split at h
  · exact (List.mem_cons.mp h).imp_right hdigit
  · exact .inr (hdigit h)

theorem integerText_ne_nil (n : Int) : integerText n ≠ [] := by
  have hdigits : digits n.natAbs ≠ [] := Nat.toDigits_ne_nil
  rw [integerText]
  split
  · exact List.cons_ne_nil _ _
  · exact hdigits

theorem digitsValue_digits (n : Nat) : digitsValue (digits n) = n := by
  have hfold := @Nat.ofDigitChars_ten_toDigits n
  rw [Nat.ofDigitChars_eq_foldl] at hfold
  exact hfold

theorem isDigit_of_mem_digits {n : Nat} {c : Char} (h : c ∈ digits n) : isDigit c = true := by
  have hdigit : c.isDigit = true := Nat.isDigit_of_mem_toDigits (by decide) (by decide) h
  simp only [Char.isDigit, Bool.and_eq_true, decide_eq_true_eq] at hdigit
  simp only [isDigit, decide_eq_true_eq]
  exact hdigit

/-- Only zero starts with the digit zero. -/
theorem eq_zero_of_digits_eq_cons {n : Nat} {ds : List Char} (h : digits n = '0' :: ds) :
    n = 0 := by
  induction n using Nat.strongRecOn generalizing ds with
  | ind n ih =>
    rw [digits, Nat.toDigits_eq_if (by decide)] at h
    by_cases hlt : n < 10
    · have hchar : ∀ d < 10, Nat.digitChar d = '0' → d = 0 := by decide
      rw [if_pos hlt] at h
      exact hchar n hlt (List.cons.inj h).1
    · rw [if_neg hlt] at h
      have hfront : digits (n / 10) ≠ [] := Nat.toDigits_ne_nil
      cases hcs : digits (n / 10) with
      | nil => exact absurd hcs hfront
      | cons c cs =>
        rw [digits] at hcs
        rw [hcs] at h
        obtain rfl := (List.cons.inj h).1
        have := ih (n / 10) (by omega) hcs
        omega

theorem spanDigits_of_isDigit {ds : List Char} (h : ∀ c ∈ ds, isDigit c = true) :
    spanDigits ds = (ds, []) := by
  rw [spanDigits, List.span_eq_takeWhile_dropWhile, List.takeWhile_eq_self_iff.mpr h,
    List.dropWhile_eq_nil_iff.mpr h]

/-- The digits at the front stay the same when no digit follows the text. -/
theorem spanDigits_append {cs ds more rest : List Char} (h : spanDigits cs = (ds, more))
    (hrest : ∀ c ∈ rest.head?, isDigit c = false) :
    spanDigits (cs ++ rest) = (ds, more ++ rest) := by
  simp only [spanDigits, List.span_eq_takeWhile_dropWhile] at h ⊢
  induction cs generalizing ds with
  | nil =>
    cases h
    cases rest with
    | nil => rfl
    | cons c rest => simp [hrest c rfl]
  | cons c cs ih =>
    cases hc : isDigit c with
    | false =>
      simp only [List.takeWhile_cons, List.dropWhile_cons, hc, Bool.false_eq_true, if_false,
        List.cons_append] at h ⊢
      cases h
      rfl
    | true =>
      simp only [List.takeWhile_cons, List.dropWhile_cons, hc, if_true, List.cons_append] at h ⊢
      cases h
      simp only [Prod.mk.inj (ih rfl)]

theorem isDigit_eq (c : Char) : c.isDigit = isDigit c := by
  rw [Bool.eq_iff_iff]
  simp [Char.isDigit, isDigit, Char.le_def]

/-- The magnitude after digits that follow a magnitude. -/
def digitsAfter (n : Nat) (ds : List Char) : Nat := ds.foldl (fun n c => 10 * n + digitValue c) n

theorem le_digitsAfter (n : Nat) (ds : List Char) : n ≤ digitsAfter n ds := by
  induction ds generalizing n with
  | nil => exact Nat.le_refl n
  | cons c rest ih =>
    have hrest := ih (10 * n + digitValue c)
    rw [digitsAfter, List.foldl_cons]
    rw [digitsAfter] at hrest
    omega

theorem baseDigit?_ten (c : Char) :
    baseDigit? 10 c = if isDigit c then some (digitValue c) else none := by
  cases hc : isDigit c with
  | true =>
    have hlt : digitValue c < 10 := by
      simp only [isDigit, decide_eq_true_eq, Char.le_def, UInt32.le_iff_toNat_le] at hc
      have hnine : ('9' : Char).val.toNat = 57 := rfl
      have hvalue : digitValue c = c.val.toNat - 48 := rfl
      omega
    simp [baseDigit?, hc, hlt]
  | false =>
    simp only [baseDigit?, hc, Bool.false_eq_true, if_false]
    split_ifs <;> first | rfl | omega

namespace IntegerFormat

variable {f : IntegerFormat}

def signed (negative : Bool) (n : Nat) : Int := if negative then -n else n

/-- Whether a format has all magnitudes up to one on a side of zero. -/
def reaches (f : IntegerFormat) (negative : Bool) (n : Nat) : Prop :=
  if negative then f.least ≤ -(n : Int) else (n : Int) ≤ f.greatest

theorem reaches_of_le {negative : Bool} {m n : Nat} (hle : m ≤ n)
    (h : f.reaches negative n) : f.reaches negative m := by
  cases negative with
  | true =>
    simp only [reaches, if_true] at h ⊢
    omega
  | false =>
    simp only [reaches, Bool.false_eq_true, if_false] at h ⊢
    omega

/-- What is reported of a value beyond the range on a side of zero. -/
def overflow (negative : Bool) : IntegerFault := if negative then .tooSmall else .tooLarge

/-- A digit is taken if the format reaches the new magnitude, and reported if it does not. -/
theorem takeDigits_cons (hbase : f.base = 10) (negative : Bool) (n : Nat) {c : Char}
    (hc : isDigit c = true) (rest : List Char) :
    (f.reaches negative (10 * n + digitValue c) →
      f.takeDigits negative (signed negative n) (c :: rest) =
        f.takeDigits negative (signed negative (10 * n + digitValue c)) rest) ∧
    (¬f.reaches negative (10 * n + digitValue c) →
      f.takeDigits negative (signed negative n) (c :: rest) = .error (overflow negative)) := by
  simp only [takeDigits, hbase, baseDigit?_ten, hc, if_true]
  cases negative with
  | true =>
    have hnext : signed true n * (10 : Nat) - digitValue c =
        signed true (10 * n + digitValue c) := by
      simp only [signed, if_true]
      omega
    simp only [hnext, if_true, reaches, overflow]
    simp only [signed, if_true]
    constructor
    · intro h
      rw [if_neg (by omega)]
    · intro h
      rw [if_pos (by omega)]
  | false =>
    have hnext : signed false n * (10 : Nat) + digitValue c =
        signed false (10 * n + digitValue c) := by
      simp only [signed, Bool.false_eq_true, if_false]
      omega
    simp only [hnext, Bool.false_eq_true, if_false, reaches, overflow]
    simp only [signed, Bool.false_eq_true, if_false]
    constructor
    · intro h
      rw [if_neg (by omega)]
    · intro h
      rw [if_pos (by omega)]

theorem takeDigits_of_reaches (hbase : f.base = 10) (negative : Bool) {n : Nat} {ds : List Char}
    (hds : ∀ c ∈ ds, isDigit c = true) (h : f.reaches negative (digitsAfter n ds)) :
    f.takeDigits negative (signed negative n) ds = .ok (signed negative (digitsAfter n ds)) := by
  induction ds generalizing n with
  | nil => rfl
  | cons c rest ih =>
    rw [List.forall_mem_cons] at hds
    have hnext : f.reaches negative (10 * n + digitValue c) :=
      reaches_of_le (le_digitsAfter (10 * n + digitValue c) rest) h
    rw [(takeDigits_cons hbase negative n hds.1 rest).1 hnext]
    exact ih hds.2 h

/-- The digits of a magnitude are read as that magnitude on the side of zero that is asked for. -/
theorem takeDigits_digits (hbase : f.base = 10) (negative : Bool) {n : Nat}
    (h : f.reaches negative n) : f.takeDigits negative 0 (digits n) = .ok (signed negative n) := by
  have hzero : (0 : Int) = signed negative 0 := by cases negative <;> rfl
  have hvalue : digitsAfter 0 (digits n) = n := digitsValue_digits n
  rw [← hvalue] at h
  have htaken := takeDigits_of_reaches hbase negative (fun _ => isDigit_of_mem_digits) h
  rw [hzero, htaken, hvalue]

theorem read_cons_of_isDigit (f : IntegerFormat) {c : Char} (hc : c.isDigit = true)
    (rest : List Char) : f.read (c :: rest) = f.takeDigits false 0 (c :: rest) := by
  unfold read
  split <;> simp_all

/-- An integer of a format is read back from its text. -/
theorem read_integerText (hbase : f.base = 10) {n : Int}
    (h : f.contains n = true) : f.read (integerText n) = .ok n := by
  simp only [contains, decide_eq_true_eq] at h
  have hdigits : ∀ c ∈ digits n.natAbs, c.isDigit = true :=
    fun c => Nat.isDigit_of_mem_toDigits (by decide) (by decide)
  have hsome : digits n.natAbs ≠ [] := Nat.toDigits_ne_nil
  by_cases hneg : n < 0
  · have hread := takeDigits_digits (n := n.natAbs) hbase true
      (by simp only [reaches, if_true]; omega)
    have hvalue : signed true n.natAbs = n := by
      simp only [signed, if_true]
      omega
    have hleast : f.least < 0 := by omega
    rw [integerText, if_pos hneg]
    cases hcs : digits n.natAbs with
    | nil => exact absurd hcs hsome
    | cons c rest =>
      rw [hcs, hvalue] at hread
      simp only [read, if_pos hleast, hread]
  · have hread := takeDigits_digits (n := n.natAbs) hbase false
      (by simp only [reaches, Bool.false_eq_true, if_false]; omega)
    have hvalue : signed false n.natAbs = n := by
      simp only [signed, Bool.false_eq_true, if_false]
      omega
    rw [integerText, if_neg hneg]
    cases hcs : digits n.natAbs with
    | nil => exact absurd hcs hsome
    | cons c rest =>
      rw [hcs] at hdigits
      have hc := hdigits c List.mem_cons_self
      rw [hcs, hvalue] at hread
      rw [read_cons_of_isDigit f hc, hread]

end IntegerFormat

/-! ## Words

Every word is an integer of its format. -/

theorem contains_int64 (n : Int64) : int64Format.contains n.toInt = true :=
  decide_eq_true ⟨n.le_toInt, Int.le_of_lt_add_one n.toInt_lt⟩

theorem contains_int32 (n : Int32) : int32Format.contains n.toInt = true :=
  decide_eq_true ⟨n.le_toInt, Int.le_of_lt_add_one n.toInt_lt⟩

theorem contains_uint32 (n : UInt32) : uint32Format.contains n.toNat = true :=
  decide_eq_true ⟨Int.natCast_nonneg _, Int.le_of_lt_add_one (Int.ofNat_lt.mpr n.toNat_lt)⟩

theorem contains_uint64 (n : UInt64) : uint64Format.contains n.toNat = true :=
  decide_eq_true ⟨Int.natCast_nonneg _, Int.le_of_lt_add_one (Int.ofNat_lt.mpr n.toNat_lt)⟩

end Multimodal.Number
