import Multimodal.Csv.Cell
import Multimodal.Csv.Record

/-!
# Rows of a table

The first record of a table names its columns; every other record is a row with one cell for each
column. Names and cells are text without the white space around it. A column is matched by its name
to a field of the row; when the names are not text, cells are taken in the order of the fields.
-/
namespace Multimodal.Csv

/-- The text of a cell, without white space at its ends, if it is text. -/
def Cell.text? (cell : Cell) : Option String :=
  (String.fromUTF8? ⟨cell.toArray⟩).map Text.trimmed

/-- The texts of the cells of a record, if all of them are text. -/
def Record.texts? (record : Record) : Option (List String) := record.mapM Cell.text?

variable {ρ : Type}

/-- The fields of a row under the names of the columns, if they are known. -/
def readFields (fields : List (RecordField String ρ)) (start : ρ) (names : Option (List String))
    (texts : List String) : Decoded ρ :=
  match names with
  | some names => RecordField.readNamed fields (fun _ => true) (names.zip texts) [] start
  | none => RecordField.readInOrder fields (texts.take fields.length) start

def readRow (fields : List (RecordField String ρ)) (start : ρ) (header record : Record) :
    Except TableFault ρ :=
  if record.length ≠ header.length then .error .fieldCount
  else
    match record.texts? with
    | none => .error .notText
    | some texts => (readFields fields start header.texts? texts).mapError .undecodable

/-- The rows of records, the first of which has the number `position`. The first that fails is
reported with its number. -/
def readRows (fields : List (RecordField String ρ)) (start : ρ) (header : Record) (position : Nat) :
    List Record → Except (Nat × TableFault) (List ρ)
  | [] => .ok []
  | record :: rest => do
    let row ← (readRow fields start header record).mapError (position, ·)
    let rows ← readRows fields start header (position + 1) rest
    return row :: rows

def readTable (fields : List (RecordField String ρ)) (start : ρ) (octets : List UInt8) :
    Except (Nat × TableFault) (List ρ) :=
  match records octets with
  | [] => .ok []
  | header :: rest => readRows fields start header 0 rest

end Multimodal.Csv
