/-!
# Splitting a table into cells

A table is octets: records of cells, cells parted by commas, records ended by a carriage return, a
line feed or both. A cell that begins with a quote extends to the next quote that is not doubled,
over commas and line ends; what follows the closing quote belongs to the cell as well. A quote
inside an unquoted cell is an ordinary octet. Empty lines are no records, and the end of the table
ends an unfinished one.
-/
namespace Multimodal.Csv

abbrev Cell := List UInt8

abbrev Record := List Cell

/-- Parts the cells of a record. -/
def comma : UInt8 := 44

/-- Opens and closes a quoted cell. -/
def quote : UInt8 := 34

/-- Whether an octet ends a line. -/
def isBreak (b : UInt8) : Bool := b == 10 || b == 13

/-- Where in a table an octet stands. -/
inductive Place where
  /-- Before the first octet of a record. -/
  | recordStart
  /-- Before the first octet of a further cell. -/
  | cellStart
  /-- Inside a cell, outside quotes. -/
  | plain
  /-- Between quotes. -/
  | quoted
  /-- After a quote that closes unless it is followed by another. -/
  | closing
  deriving DecidableEq, Repr

/-- What an octet does. -/
inductive Move where
  /-- It belongs to the cell. -/
  | take (next : Place)
  /-- It only leads on. -/
  | drop (next : Place)
  /-- It ends the cell. -/
  | endCell
  /-- It ends the cell and the record. -/
  | endRecord
  deriving DecidableEq, Repr

def unquotedMove (b : UInt8) : Move :=
  if b = comma then .endCell else if isBreak b then .endRecord else .take .plain

def Place.move : Place → UInt8 → Move
  | .recordStart, b =>
    if isBreak b then .drop .recordStart else if b = quote then .drop .quoted else unquotedMove b
  | .cellStart, b => if b = quote then .drop .quoted else unquotedMove b
  | .plain, b => unquotedMove b
  | .quoted, b => if b = quote then .drop .closing else .take .quoted
  | .closing, b => if b = quote then .take .quoted else unquotedMove b

/-- The records of octets that follow a place. `cell` holds the octets of the current cell and
`cells` the cells of the current record, both the latest first. -/
def recordsFrom (place : Place) (cell : Cell) (cells : List Cell) : List UInt8 → List Record
  | [] => if place = .recordStart then [] else [(cell.reverse :: cells).reverse]
  | b :: rest =>
    match place.move b with
    | .take next => recordsFrom next (b :: cell) cells rest
    | .drop next => recordsFrom next cell cells rest
    | .endCell => recordsFrom .cellStart [] (cell.reverse :: cells) rest
    | .endRecord => (cell.reverse :: cells).reverse :: recordsFrom .recordStart [] [] rest

/-- Drops the mark that may say at the front that the text is UTF-8. -/
def dropMark : List UInt8 → List UInt8
  | 0xEF :: 0xBB :: 0xBF :: rest => rest
  | octets => octets

/-- The records of a table. -/
def records (octets : List UInt8) : List Record := recordsFrom .recordStart [] [] (dropMark octets)

end Multimodal.Csv
