import Multimodal.Json.Reader
import Multimodal.Proofs.IntegerText

/-!
# Numbers as they are written and read

An integer is read back from its text (`readNumber_integerText`). A number that is read from a whole
text is read alike inside a document, where a mark follows that cannot belong to it
(`readNumber_append`).
-/
namespace Multimodal.Json

open Number (spanDigits isDigit readPower readExponent integerText digits digitsValue)

/-- What can follow a value: the end of the text, or a mark of the array or object it stands in. -/
def Ends (rest : List Char) : Prop := ∀ c ∈ rest.head?, c = ',' ∨ c = ']' ∨ c = '}'

theorem Ends.cases {rest : List Char} (h : Ends rest) :
    rest = [] ∨ ∃ more, rest = ',' :: more ∨ rest = ']' :: more ∨ rest = '}' :: more := by
  cases rest with
  | nil => exact .inl rfl
  | cons c more =>
    right
    obtain rfl | rfl | rfl := h c rfl
    · exact ⟨more, .inl rfl⟩
    · exact ⟨more, .inr (.inl rfl)⟩
    · exact ⟨more, .inr (.inr rfl)⟩

theorem Ends.not_isDigit {rest : List Char} (h : Ends rest) :
    ∀ c ∈ rest.head?, isDigit c = false := by
  intro c hc
  obtain rfl | rfl | rfl := h c hc <;> rfl

/-! ## In a longer text -/

section Append

variable {cs ds more rest : List Char} {power : Int} {v : Json}

theorem readWhole_append (h : readWhole cs = some (ds, more)) (hrest : Ends rest) :
    readWhole (cs ++ rest) = some (ds, more ++ rest) := by
  cases hspan : spanDigits cs with
  | mk whole left =>
    rw [readWhole, hspan] at h
    rw [readWhole, Number.spanDigits_append hspan hrest.not_isDigit]
    split at h <;> simp_all

theorem readFraction_append (h : readFraction cs = some (ds, more)) (hrest : Ends rest) :
    readFraction (cs ++ rest) = some (ds, more ++ rest) := by
  unfold readFraction at h
  split at h
  · rename_i tail
    cases hspan : spanDigits tail with
    | mk fraction left =>
      rw [hspan] at h
      rw [List.cons_append, readFraction, Number.spanDigits_append hspan hrest.not_isDigit]
      split at h <;> simp_all
  · cases h
    cases cs with
    | nil => obtain rfl | ⟨tail, rfl | rfl | rfl⟩ := hrest.cases <;> rfl
    | cons c tail =>
      unfold readFraction
      split <;> simp_all

/-- The digits of an exponent whose sign is known. -/
def readMagnitude (negative : Bool) (cs : List Char) : Option (Int × List Char) :=
  match spanDigits cs with
  | ([], _) => none
  | (ds, left) => some (if negative then -(digitsValue ds : Int) else digitsValue ds, left)

theorem readMagnitude_append {negative : Bool} (h : readMagnitude negative cs = some (power, more))
    (hrest : Ends rest) : readMagnitude negative (cs ++ rest) = some (power, more ++ rest) := by
  cases hspan : spanDigits cs with
  | mk ds left =>
    rw [readMagnitude, hspan] at h
    rw [readMagnitude, Number.spanDigits_append hspan hrest.not_isDigit]
    split at h <;> simp_all

theorem readPower_unsigned {c : Char} (hplus : c ≠ '+') (hminus : c ≠ '-') (cs : List Char) :
    readPower (c :: cs) = readMagnitude false (c :: cs) := by
  unfold readPower
  split
  · rename_i heq
    exact absurd (List.cons.inj heq).1 hplus
  · rename_i heq
    exact absurd (List.cons.inj heq).1 hminus
  · rfl

theorem readPower_append (h : readPower cs = some (power, more)) (hrest : Ends rest) :
    readPower (cs ++ rest) = some (power, more ++ rest) := by
  cases cs with
  | nil => cases h
  | cons c tail =>
    by_cases hplus : c = '+'
    · subst hplus
      exact readMagnitude_append h hrest
    · by_cases hminus : c = '-'
      · subst hminus
        exact readMagnitude_append h hrest
      · rw [readPower_unsigned hplus hminus] at h
        rw [List.cons_append, readPower_unsigned hplus hminus]
        exact readMagnitude_append h hrest

theorem readExponent_append (h : readExponent cs = some (power, more)) (hrest : Ends rest) :
    readExponent (cs ++ rest) = some (power, more ++ rest) := by
  unfold readExponent at h
  split at h
  · exact readPower_append h hrest
  · exact readPower_append h hrest
  · cases h
    cases cs with
    | nil => obtain rfl | ⟨tail, rfl | rfl | rfl⟩ := hrest.cases <;> rfl
    | cons c tail =>
      unfold readExponent
      split <;> simp_all

theorem hasExponent_append (hrest : Ends rest) : hasExponent (cs ++ rest) = hasExponent cs := by
  cases cs with
  | nil => obtain rfl | ⟨tail, rfl | rfl | rfl⟩ := hrest.cases <;> rfl
  | cons c tail => rfl

theorem readUnsigned_append {negative : Bool} (h : readUnsigned negative cs = some (v, more))
    (hrest : Ends rest) : readUnsigned negative (cs ++ rest) = some (v, more ++ rest) := by
  simp only [readUnsigned, Option.bind_eq_bind, Option.bind_eq_some_iff, Option.pure_def,
    Prod.exists] at h
  obtain ⟨whole, afterWhole, hwhole, h⟩ := h
  obtain ⟨fraction, afterFraction, hfraction, power, left, hpower, heq⟩ := h
  cases heq
  simp only [readUnsigned, readWhole_append hwhole hrest, readFraction_append hfraction hrest,
    readExponent_append hpower hrest, hasExponent_append hrest, Option.bind_eq_bind,
    Option.bind_some, Option.pure_def]

theorem readNumber_append (h : readNumber cs = some (v, more)) (hrest : Ends rest) :
    readNumber (cs ++ rest) = some (v, more ++ rest) := by
  unfold readNumber at h
  split at h
  · exact readUnsigned_append h hrest
  · cases cs with
    | nil => cases h
    | cons c tail =>
      unfold readNumber
      split
      · simp_all
      · exact readUnsigned_append h hrest

end Append

/-- The characters with which a number starts. -/
def opensNumber (c : Char) : Bool := c == '-' || isDigit c

/-- A number starts with its sign or a digit. -/
theorem head_of_readNumber {cs more : List Char} {v : Json} (h : readNumber cs = some (v, more)) :
    ∃ c tail, cs = c :: tail ∧ opensNumber c = true := by
  cases cs with
  | nil => cases h
  | cons c tail =>
    refine ⟨c, tail, rfl, ?_⟩
    by_cases hsign : c = '-'
    · subst hsign
      rfl
    · cases hc : isDigit c with
      | true => simp [opensNumber, hc]
      | false =>
        have hspan : spanDigits (c :: tail) = ([], c :: tail) := by
          simp [spanDigits, List.span_eq_takeWhile_dropWhile, hc]
        have hnone : readUnsigned false (c :: tail) = none := by
          simp [readUnsigned, readWhole, hspan]
        unfold readNumber at h
        split at h
        · simp_all
        · rw [hnone] at h
          cases h

/-! ## Integers -/

theorem readWhole_digits (n : Nat) : readWhole (digits n) = some (digits n, []) := by
  have hspan : spanDigits (digits n) = (digits n, []) :=
    Number.spanDigits_of_isDigit fun _ => Number.isDigit_of_mem_digits
  rw [readWhole, hspan]
  split
  · rename_i heq
    exact absurd (congrArg Prod.fst heq) Nat.toDigits_ne_nil
  · rename_i heq
    have hzero := Number.eq_zero_of_digits_eq_cons (congrArg Prod.fst heq)
    rw [hzero] at heq
    cases heq
  · rfl

theorem readUnsigned_digits {negative : Bool} {n : Nat} (hzero : negative = true → n ≠ 0)
    (hkeeps : keepsInteger (if negative then -(n : Int) else n) = true) :
    readUnsigned negative (digits n) = some (.int (if negative then -(n : Int) else n), []) := by
  have hnonzero : (negative && (n : Int) == 0) = false := by
    cases negative <;> simp_all
  simp only [readUnsigned, readWhole_digits, readFraction, readExponent, hasExponent,
    Option.bind_eq_bind, Option.bind_some, Option.pure_def, numberValue,
    Number.digitsValue_digits, hkeeps, hnonzero]
  rfl

/-- An integer that keeps its value is read back from its text. -/
theorem readNumber_integerText {n : Int} (h : keepsInteger n = true) :
    readNumber (integerText n) = some (.int n, []) := by
  rw [integerText]
  split
  · have hvalue : -(n.natAbs : Int) = n := by omega
    have hread := @readUnsigned_digits true n.natAbs (by omega)
    simp only [if_true, hvalue] at hread
    exact hread h
  · have hvalue : (n.natAbs : Int) = n := by omega
    have hread := @readUnsigned_digits false n.natAbs (by simp)
    simp only [Bool.false_eq_true, if_false, hvalue] at hread
    unfold readNumber
    split
    · rename_i heq
      have hminus : isDigit '-' = true :=
        Number.isDigit_of_mem_digits (heq ▸ List.mem_cons_self)
      exact absurd hminus (by decide)
    · exact hread h

end Multimodal.Json
