import Multimodal.Csv.Record

/-!
# Writing tables

A table is written record by record. Cells are parted by commas and may be quoted; those that hold
an octet with a meaning of its own have to be. Inside quotes every quote is doubled. Which further
cells are quoted and how lines end is up to a dialect.

* `recordsFrom_writeCell`: reading a written cell takes up the cell, whatever follows.
* `recordsFrom_writeRecord`: reading a written record takes up its cells.
* `records_write`: reading a written table gives its records.
-/
namespace Multimodal.Csv

/-! ## The writer -/

/-- Whether an octet has a meaning outside quotes. -/
def isSpecial (b : UInt8) : Bool := b == comma || b == quote || isBreak b

inductive LineEnd where
  | lf
  | crlf
  | cr
  deriving DecidableEq, Repr

def LineEnd.octets : LineEnd → List UInt8
  | .lf => [10]
  | .crlf => [13, 10]
  | .cr => [13]

/-- How a table is written: how its lines end, and which of its cells are quoted. -/
structure Dialect where
  lineEnd : LineEnd
  quotes : Cell → Bool
  quotes_of_special : ∀ cell, cell.any isSpecial = true → quotes cell = true

/-- Only those cells are quoted that have to be. -/
def Dialect.plain (lineEnd : LineEnd) : Dialect := ⟨lineEnd, (·.any isSpecial), fun _ h => h⟩

def doubled : Cell → List UInt8
  | [] => []
  | b :: rest => if b = quote then quote :: quote :: doubled rest else b :: doubled rest

namespace Dialect

def writeCell (d : Dialect) (cell : Cell) : List UInt8 :=
  if d.quotes cell then quote :: (doubled cell ++ [quote]) else cell

def writeRecord (d : Dialect) : Record → List UInt8
  | [] => d.lineEnd.octets
  | [cell] => d.writeCell cell ++ d.lineEnd.octets
  | cell :: next :: rest => d.writeCell cell ++ comma :: d.writeRecord (next :: rest)

def write (d : Dialect) (table : List Record) : List UInt8 := table.flatMap d.writeRecord

end Dialect

/-! ## Reading a written cell -/

/-- Where a cell can begin. -/
def Place.begins : Place → Bool
  | .recordStart => true
  | .cellStart => true
  | _ => false

theorem isSpecial_eq_false {b : UInt8} (h : isSpecial b = false) :
    b ≠ comma ∧ b ≠ quote ∧ isBreak b = false := by
  simpa [isSpecial, and_assoc] using h

/-- An octet without a meaning is taken up, unless quotes are closing. -/
theorem Place.move_of_not_special {b : UInt8} (h : isSpecial b = false) {place : Place}
    (hplace : place.begins = true ∨ place = .plain) : place.move b = .take .plain := by
  obtain ⟨hcomma, hquote, hbreak⟩ := isSpecial_eq_false h
  cases place <;> simp_all [begins, move, unquotedMove]

/-- Octets without a meaning belong to an unquoted cell. -/
theorem recordsFrom_plain (octets : Cell) (h : octets.any isSpecial = false) (cell : Cell)
    (cells : List Cell) (tail : List UInt8) :
    recordsFrom .plain cell cells (octets ++ tail) =
      recordsFrom .plain (octets.reverse ++ cell) cells tail := by
  induction octets generalizing cell with
  | nil => rfl
  | cons b rest ih =>
    simp only [List.any_cons, Bool.or_eq_false_iff] at h
    rw [List.cons_append, recordsFrom, Place.move_of_not_special h.1 (.inr rfl)]
    simp only [ih h.2, List.reverse_cons, List.append_assoc, List.singleton_append]

/-- Doubled quotes belong to a quoted cell, and a single one ends it. -/
theorem recordsFrom_quoted (octets cell : Cell) (cells : List Cell) (tail : List UInt8) :
    recordsFrom .quoted cell cells (doubled octets ++ quote :: tail) =
      recordsFrom .closing (octets.reverse ++ cell) cells tail := by
  induction octets generalizing cell with
  | nil => rfl
  | cons b rest ih =>
    by_cases hb : b = quote
    · subst hb
      simp [doubled, recordsFrom, Place.move, ih]
    · simp [doubled, hb, recordsFrom, Place.move, ih]

/-- Reading a written cell takes up the cell and leads to a place where it can end. -/
theorem recordsFrom_writeCell (d : Dialect) (cell : Cell) {place : Place}
    (hplace : place.begins = true) (cells : List Cell) (tail : List UInt8) :
    ∃ next, (next = place ∨ next = .plain ∨ next = .closing) ∧
      recordsFrom place [] cells (d.writeCell cell ++ tail) =
        recordsFrom next cell.reverse cells tail := by
  cases hquotes : d.quotes cell with
  | true =>
    refine ⟨.closing, .inr (.inr rfl), ?_⟩
    have hopen : place.move quote = .drop .quoted := by
      cases place <;> first | rfl | cases hplace
    have hinner := recordsFrom_quoted cell [] cells tail
    rw [List.append_nil] at hinner
    simp [Dialect.writeCell, hquotes, recordsFrom, hopen, hinner]
  | false =>
    -- an empty cell leaves the reader where it was, so its place has to end a cell as well
    have hplain : cell.any isSpecial = false := by
      rw [Bool.eq_false_iff]
      intro hspecial
      rw [d.quotes_of_special cell hspecial] at hquotes
      cases hquotes
    rw [Dialect.writeCell, hquotes]
    cases cell with
    | nil => exact ⟨place, .inl rfl, rfl⟩
    | cons b rest =>
      refine ⟨.plain, .inr (.inl rfl), ?_⟩
      simp only [List.any_cons, Bool.or_eq_false_iff] at hplain
      have hfirst := Place.move_of_not_special hplain.1 (.inl hplace)
      simp [recordsFrom, hfirst, recordsFrom_plain rest hplain.2]

theorem recordsFrom_writeCell_comma (d : Dialect) (cell : Cell) {place : Place}
    (hplace : place.begins = true) (cells : List Cell) (tail : List UInt8) :
    recordsFrom place [] cells (d.writeCell cell ++ comma :: tail) =
      recordsFrom .cellStart [] (cell :: cells) tail := by
  obtain ⟨next, hnext, hread⟩ := recordsFrom_writeCell d cell hplace cells (comma :: tail)
  have hmove : next.move comma = .endCell := by
    obtain rfl | rfl | rfl := hnext
    · cases next <;> first | rfl | cases hplace
    · rfl
    · rfl
  rw [hread, recordsFrom, hmove]
  simp

theorem recordsFrom_writeCell_lineEnd (d : Dialect) (cell : Cell) (cells : List Cell)
    (tail : List UInt8) :
    recordsFrom .cellStart [] cells (d.writeCell cell ++ (d.lineEnd.octets ++ tail)) =
      (cells.reverse ++ [cell]) :: recordsFrom .recordStart [] [] tail := by
  have hplace : Place.begins .cellStart = true := rfl
  obtain ⟨next, hnext, hread⟩ := recordsFrom_writeCell d cell hplace cells
    (d.lineEnd.octets ++ tail)
  rw [hread]
  obtain rfl | rfl | rfl := hnext <;> cases d.lineEnd <;>
    simp [LineEnd.octets, recordsFrom, Place.move, unquotedMove, isBreak, comma, quote]

/-! ## Reading a written table -/

/-- Reading a written record from its second cell on takes up its cells. -/
theorem recordsFrom_writeRecord_cellStart (d : Dialect) (cell : Cell) (rest : Record)
    (cells : List Cell) (tail : List UInt8) :
    recordsFrom .cellStart [] cells (d.writeRecord (cell :: rest) ++ tail) =
      (cells.reverse ++ cell :: rest) :: recordsFrom .recordStart [] [] tail := by
  induction rest generalizing cell cells with
  | nil =>
    rw [Dialect.writeRecord, List.append_assoc]
    exact recordsFrom_writeCell_lineEnd d cell cells tail
  | cons next rest ih =>
    rw [Dialect.writeRecord, List.append_assoc, List.cons_append,
      recordsFrom_writeCell_comma d cell rfl, ih]
    simp

/-- Reading a written record takes up its cells. A record of one cell is left out, for without
quotes an empty one makes an empty line. -/
theorem recordsFrom_writeRecord (d : Dialect) {record : Record} (hwide : 2 ≤ record.length)
    (tail : List UInt8) :
    recordsFrom .recordStart [] [] (d.writeRecord record ++ tail) =
      record :: recordsFrom .recordStart [] [] tail := by
  match record, hwide with
  | cell :: next :: rest, _ =>
    rw [Dialect.writeRecord, List.append_assoc, List.cons_append,
      recordsFrom_writeCell_comma d cell rfl, recordsFrom_writeRecord_cellStart]
    rfl

theorem recordsFrom_write (d : Dialect) {table : List Record}
    (hwide : ∀ record ∈ table, 2 ≤ record.length) :
    recordsFrom .recordStart [] [] (d.write table) = table := by
  induction table with
  | nil => rfl
  | cons record rest ih =>
    rw [List.forall_mem_cons] at hwide
    rw [Dialect.write, List.flatMap_cons, recordsFrom_writeRecord d hwide.1]
    exact congrArg (record :: ·) (ih hwide.2)

/-- A written table does not begin with a mark unless its first cell does. -/
theorem dropMark_write (d : Dialect) {first second : Cell} (hfirst : first.head? ≠ some 0xEF)
    (rest : Record) (table : List Record) :
    dropMark (d.write ((first :: second :: rest) :: table)) =
      d.write ((first :: second :: rest) :: table) := by
  rw [Dialect.write, List.flatMap_cons, Dialect.writeRecord, Dialect.writeCell]
  cases hquotes : d.quotes first with
  | true => rfl
  | false =>
    cases first with
    | nil => rfl
    | cons b more =>
      have hb : b ≠ 0xEF := by simpa using hfirst
      simp [dropMark, hb]

/-- Reading a written table gives its records. -/
theorem records_write (d : Dialect) {header : Record} {table : List Record}
    (hmark : ∀ cell ∈ header, cell.head? ≠ some 0xEF)
    (hwide : ∀ record ∈ header :: table, 2 ≤ record.length) :
    records (d.write (header :: table)) = header :: table := by
  rw [records]
  match header, hwide header List.mem_cons_self with
  | first :: second :: rest, _ =>
    rw [dropMark_write d (hmark first List.mem_cons_self), recordsFrom_write d hwide]

end Multimodal.Csv
