import Multimodal.Json.Printer
import Multimodal.Json.Reader

/-!
# Strings as they are written and read

A string is read back from its text, with whatever follows the closing quote (`readPieces_text`,
`joinPieces_map_pieceOf`). Of the escapes only those of the controls without a letter come back as
units, and none of these units is half of a surrogate pair.
-/
namespace Multimodal.Json

def pieceOf (c : Char) : Piece :=
  match c with
  | '\x08' => .char c
  | '\x0c' => .char c
  | '\n' => .char c
  | '\r' => .char c
  | '\t' => .char c
  | _ => if c.toNat < 0x20 then .unit c.toNat else .char c

theorem baseDigit?_sixteen_digitChar {d : Nat} (h : d < 16) :
    Number.baseDigit? 16 (Nat.digitChar d) = some d := by
  revert d
  decide

theorem hexUnit?_controls {n : Nat} (h : n < 0x20) :
    hexUnit? '0' '0' (Nat.digitChar (n / 16)) (Nat.digitChar (n % 16)) = some n := by
  have hzero : Number.baseDigit? 16 '0' = some 0 := by decide
  have hvalue : 16 * (16 * (16 * (16 * 0 + 0) + 0) + n / 16) + n % 16 = n := by omega
  simp only [hexUnit?, List.foldlM_cons, List.foldlM_nil, hzero,
    baseDigit?_sixteen_digitChar (show n / 16 < 16 by omega),
    baseDigit?_sixteen_digitChar (show n % 16 < 16 by omega), Option.map_some, Option.bind_eq_bind,
    Option.bind_some, hvalue, pure]

/-- A character that has no escape of its own is read as itself. -/
theorem readPieces_plain {c : Char} (hquote : c ≠ '"') (hslash : c ≠ '\\')
    (hprint : ¬ c.toNat < 0x20) (rest : List Char) :
    readPieces (c :: rest) = (readPieces rest).map fun read => (.char c :: read.1, read.2) := by
  rw [readPieces.eq_def]
  split
  case h_5 heq =>
    obtain ⟨rfl, rfl⟩ := List.cons.inj heq
    exact if_neg hprint
  all_goals simp_all

theorem readPieces_charText (c : Char) (rest : List Char) :
    readPieces (charText c ++ rest) =
      (readPieces rest).map fun read => (pieceOf c :: read.1, read.2) := by
  unfold charText
  split
  case h_8 hquote hslash hb hf hn hr ht =>
    have hpiece : pieceOf c = if c.toNat < 0x20 then .unit c.toNat else .char c := by
      unfold pieceOf
      split <;> first | contradiction | rfl
    rw [hpiece]
    split
    · rename_i hcontrol
      cases hrest : readPieces rest <;>
        simp [readPieces, hexUnit?_controls hcontrol, hrest]
    · rename_i hprint
      exact readPieces_plain hquote hslash hprint rest
  all_goals
    cases hrest : readPieces rest <;> simp [readPieces, escaped?, pieceOf, hrest]

/-- The pieces of a written string are read up to its closing quote. -/
theorem readPieces_text (s rest : List Char) :
    readPieces (s.flatMap charText ++ '"' :: rest) = some (s.map pieceOf, rest) := by
  induction s with
  | nil => rfl
  | cons c s ih =>
    rw [List.flatMap_cons, List.append_assoc, readPieces_charText, ih]
    rfl

/-- A unit that is no half of a surrogate pair stands for itself. -/
theorem joinPieces_unit {u : Nat} (h : u < 0xD800) (rest : List Piece) :
    joinPieces (.unit u :: rest) = (joinPieces rest).map (Char.ofNat u :: ·) := by
  have hhigh : isHighUnit u = false := by
    simp only [isHighUnit, decide_eq_false_iff_not]
    omega
  have hlow : isLowUnit u = false := by
    simp only [isLowUnit, decide_eq_false_iff_not]
    omega
  cases rest with
  | nil => simp [joinPieces, hhigh, hlow]
  | cons p rest => cases p <;> simp [joinPieces, hhigh, hlow]

theorem joinPieces_pieceOf (c : Char) (rest : List Piece) :
    joinPieces (pieceOf c :: rest) = (joinPieces rest).map (c :: ·) := by
  unfold pieceOf
  split
  case h_6 =>
    split
    · rw [joinPieces_unit (by omega), Char.ofNat_toNat]
    · rfl
  all_goals rfl

theorem joinPieces_map_pieceOf (s : List Char) : joinPieces (s.map pieceOf) = some s := by
  induction s with
  | nil => rfl
  | cons c s ih =>
    rw [List.map_cons, joinPieces_pieceOf, ih]
    rfl

end Multimodal.Json
