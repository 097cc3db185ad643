import Multimodal.Proofs.IntegerText

/-!
# Which texts are integers

A decimal integer is one or more digits after an optional sign; zeros in front change nothing
(`IsDecimal`). A signed format of base ten reads such a text as its value if it has the value, and
otherwise says on which side the value lies beyond it (`IntegerFormat.read_of_isDecimal`). It reads
no other text (`IntegerFormat.read_eq_ok_iff`).

The magnitude never shrinks while digits are taken: a text leaves the range at some digit exactly if
its whole value is outside.
-/
namespace Multimodal.Number

/-- A text is a decimal integer, with the value it has. -/
inductive IsDecimal : List Char → Int → Prop
  | unsigned {ds : List Char} : ds ≠ [] → (∀ c ∈ ds, isDigit c = true) →
    IsDecimal ds (digitsValue ds)
  | plus {ds : List Char} : ds ≠ [] → (∀ c ∈ ds, isDigit c = true) →
    IsDecimal ('+' :: ds) (digitsValue ds)
  | minus {ds : List Char} : ds ≠ [] → (∀ c ∈ ds, isDigit c = true) →
    IsDecimal ('-' :: ds) (-(digitsValue ds : Int))

namespace IntegerFormat

variable {f : IntegerFormat}

/-- Digits whose value is beyond the format are reported as such. -/
theorem takeDigits_of_not_reaches (hbase : f.base = 10) (negative : Bool) {n : Nat}
    {ds : List Char} (hds : ∀ c ∈ ds, isDigit c = true) (hn : f.reaches negative n)
    (h : ¬f.reaches negative (digitsAfter n ds)) :
    f.takeDigits negative (signed negative n) ds = .error (overflow negative) := by
  induction ds generalizing n with
  | nil => exact absurd hn h
  | cons c rest ih =>
    rw [List.forall_mem_cons] at hds
    by_cases hnext : f.reaches negative (10 * n + digitValue c)
    · rw [(takeDigits_cons hbase negative n hds.1 rest).1 hnext]
      exact ih hds.2 hnext h
    · exact (takeDigits_cons hbase negative n hds.1 rest).2 hnext

/-- What is read digit by digit has digits only. -/
theorem isDigit_of_takeDigits (hbase : f.base = 10) {negative : Bool} {value n : Int}
    {ds : List Char} (h : f.takeDigits negative value ds = .ok n) : ∀ c ∈ ds, isDigit c = true := by
  induction ds generalizing value with
  | nil => exact List.forall_mem_nil _
  | cons c rest ih =>
    rw [List.forall_mem_cons]
    simp only [takeDigits, hbase, baseDigit?_ten] at h
    cases hc : isDigit c with
    | false => simp [hc] at h
    | true =>
      refine ⟨rfl, ?_⟩
      simp only [hc, if_true] at h
      split at h <;> split at h <;> first | exact ih h | cases h

/-- Digits alone are read without a sign. -/
theorem read_of_isDigit {ds : List Char} (hsome : ds ≠ []) (hds : ∀ c ∈ ds, isDigit c = true) :
    f.read ds = f.takeDigits false 0 ds := by
  obtain ⟨c, rest, rfl⟩ := List.exists_cons_of_ne_nil hsome
  exact read_cons_of_isDigit f (by simpa [isDigit_eq] using hds c List.mem_cons_self) rest

theorem read_plus {ds : List Char} (hsome : ds ≠ []) :
    f.read ('+' :: ds) = f.takeDigits false 0 ds := by
  obtain ⟨c, rest, rfl⟩ := List.exists_cons_of_ne_nil hsome
  rfl

theorem read_minus (hleast : f.least < 0) {ds : List Char} (hsome : ds ≠ []) :
    f.read ('-' :: ds) = f.takeDigits true 0 ds := by
  obtain ⟨c, rest, rfl⟩ := List.exists_cons_of_ne_nil hsome
  exact if_pos hleast

section Signed

variable (hbase : f.base = 10) (hleast : f.least < 0) (hgreatest : 0 ≤ f.greatest)
include hbase hleast hgreatest

/-- Digits are read as their value on a side of zero, or reported as beyond that side. -/
theorem takeDigits_eq (negative : Bool) {ds : List Char} (hds : ∀ c ∈ ds, isDigit c = true) :
    f.takeDigits negative 0 ds =
      if signed negative (digitsValue ds) < f.least then .error .tooSmall
      else if f.greatest < signed negative (digitsValue ds) then .error .tooLarge
      else .ok (signed negative (digitsValue ds)) := by
  have hzero : (0 : Int) = signed negative 0 := by cases negative <;> rfl
  have hstart : f.reaches negative 0 := by
    cases negative <;> simp only [reaches, if_true, Bool.false_eq_true, if_false] <;> omega
  have hvalue : digitsValue ds = digitsAfter 0 ds := rfl
  rw [hzero, hvalue]
  by_cases h : f.reaches negative (digitsAfter 0 ds)
  · rw [takeDigits_of_reaches hbase negative hds h]
    cases negative with
    | true =>
      simp only [reaches, if_true] at h
      simp only [signed, if_true]
      rw [if_neg (by omega), if_neg (by omega)]
    | false =>
      simp only [reaches, Bool.false_eq_true, if_false] at h
      simp only [signed, Bool.false_eq_true, if_false]
      rw [if_neg (by omega), if_neg (by omega)]
  · rw [takeDigits_of_not_reaches hbase negative hds hstart h]
    cases negative with
    | true =>
      simp only [reaches, if_true] at h
      simp only [signed, overflow, if_true]
      rw [if_pos (by omega)]
    | false =>
      simp only [reaches, Bool.false_eq_true, if_false] at h
      simp only [signed, overflow, Bool.false_eq_true, if_false]
      rw [if_neg (by omega), if_pos (by omega)]

/-- A decimal integer is read as its value, or reported as beyond the range on the side where it
is. -/
theorem read_of_isDecimal {cs : List Char} {n : Int} (h : IsDecimal cs n) :
    f.read cs =
      if n < f.least then .error .tooSmall
      else if f.greatest < n then .error .tooLarge
      else .ok n := by
  cases h with
  | unsigned hsome hds =>
    rw [read_of_isDigit hsome hds]
    exact takeDigits_eq hbase hleast hgreatest false hds
  | plus hsome hds =>
    rw [read_plus hsome]
    exact takeDigits_eq hbase hleast hgreatest false hds
  | minus hsome hds =>
    rw [read_minus hleast hsome]
    exact takeDigits_eq hbase hleast hgreatest true hds

omit hgreatest in
theorem isDecimal_of_read {cs : List Char} {n : Int} (h : f.read cs = .ok n) :
    ∃ value, IsDecimal cs value := by
  unfold read at h
  split at h
  · cases h
  · cases h
  · cases h
  · rename_i rest hplus
    exact ⟨_, .plus (fun hnil => hplus (by rw [hnil])) (isDigit_of_takeDigits hbase h)⟩
  · rename_i rest hminus
    rw [if_pos hleast] at h
    exact ⟨_, .minus (fun hnil => hminus (by rw [hnil])) (isDigit_of_takeDigits hbase h)⟩
  · rename_i hnil _ _ _ _
    exact ⟨_, .unsigned hnil (isDigit_of_takeDigits hbase h)⟩

/-- A format reads the decimal integers whose value it has, as that value. -/
theorem read_eq_ok_iff {cs : List Char} {n : Int} :
    f.read cs = .ok n ↔ IsDecimal cs n ∧ f.contains n = true := by
  simp only [contains, decide_eq_true_eq]
  constructor
  · intro h
    obtain ⟨value, hvalue⟩ := isDecimal_of_read hbase hleast h
    rw [read_of_isDecimal hbase hleast hgreatest hvalue] at h
    split_ifs at h
    cases h
    exact ⟨hvalue, by omega⟩
  · rintro ⟨hn, hlow, hhigh⟩
    rw [read_of_isDecimal hbase hleast hgreatest hn, if_neg (by omega), if_neg (by omega)]

end Signed

end IntegerFormat

theorem IsDecimal.unique {cs : List Char} {m n : Int} (hm : IsDecimal cs m) (hn : IsDecimal cs n) :
    m = n := by
  -- a format with room for both values reads the text as either
  let f : IntegerFormat := ⟨-m.natAbs - n.natAbs - 1, m.natAbs + n.natAbs, 10⟩
  have hleast : f.least < 0 := by
    show (-m.natAbs - n.natAbs - 1 : Int) < 0
    omega
  have hgreatest : 0 ≤ f.greatest := by
    show (0 : Int) ≤ m.natAbs + n.natAbs
    omega
  have hreads := fun k => @IntegerFormat.read_eq_ok_iff f rfl hleast hgreatest cs k
  have hm' := (hreads m).mpr ⟨hm, decide_eq_true (by simp only [f]; omega)⟩
  have hn' := (hreads n).mpr ⟨hn, decide_eq_true (by simp only [f]; omega)⟩
  exact Except.ok.inj (hm'.symm.trans hn')

end Multimodal.Number
