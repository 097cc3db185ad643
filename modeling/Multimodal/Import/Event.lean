import Multimodal.Failure

/-!
# What an import reports while it runs

An import tells two stories in one order: how far it has come, and what it does. A progress event
names the row that was just dealt with; a note is a line for a log, kept as what it says.
-/
namespace Multimodal

/-- How much of a log is wanted, and how much a line matters. -/
inductive Verbosity where
  | off
  | error
  | warn
  | info
  | debug
  | trace
  deriving DecidableEq, Repr

namespace Verbosity

/-- Every verbosity, the quietest first. -/
def all : List Verbosity := [.off, .error, .warn, .info, .debug, .trace]

def rank : Verbosity → Nat
  | .off => 0
  | .error => 1
  | .warn => 2
  | .info => 3
  | .debug => 4
  | .trace => 5

def name : Verbosity → String
  | .off => "off"
  | .error => "error"
  | .warn => "warn"
  | .info => "info"
  | .debug => "debug"
  | .trace => "trace"

def ofName? (name : String) : Option Verbosity := all.find? (·.name == name)

/-- Whether lines of a level are wanted. -/
def admits (wanted level : Verbosity) : Bool := decide (level.rank ≤ wanted.rank)

end Verbosity

/-- A line of the log. -/
inductive Note where
  /-- An import from directories begins. -/
  | importingFrom (roadDir : String) (networks : Nat)
  /-- The node rows are here. -/
  | importingNodes (rows : Nat)
  /-- The section rows are here. -/
  | importingSections (rows : Nat)
  /-- The stop rows of all networks are here. -/
  | importingStops (rows networks : Nat)
  /-- The connection rows of all networks come next. -/
  | importingConnections (rows : Nat)
  /-- A section was added. -/
  | sectionAdded (id nodeFrom nodeTo : RecordId)
  /-- A stop stays without the station it declares. -/
  | stationUnresolved (stop : RecordId) (network : String) (station : RecordId)
  /-- A row was left out. -/
  | rowSkipped (kind : RecordKind) (cause : Failure)
  /-- Rows were left out. -/
  | rowsSkipped (rows : Nat)
  /-- The import is complete. -/
  | imported (summary : String)
  /-- The rows of a file were read. -/
  | rowsRead (rows : Nat) (kind : RecordKind) (path : String)
  deriving DecidableEq, Repr

namespace Note

def level : Note → Verbosity
  | .importingFrom .. => .info
  | .importingNodes .. => .info
  | .importingSections .. => .info
  | .importingStops .. => .info
  | .importingConnections .. => .info
  | .sectionAdded .. => .trace
  | .stationUnresolved .. => .debug
  | .rowSkipped .. => .warn
  | .rowsSkipped .. => .warn
  | .imported .. => .info
  | .rowsRead .. => .debug

def text : Note → String
  | .importingFrom roadDir networks =>
    "Importing road network from " ++ roadDir ++ " and " ++ toString networks
      ++ " public transport networks"
  | .importingNodes rows => "Importing " ++ toString rows ++ " road nodes"
  | .importingSections rows => "Importing " ++ toString rows ++ " road sections"
  | .importingStops rows networks =>
    "Importing " ++ toString rows ++ " stops in " ++ toString networks
      ++ " public transport networks"
  | .importingConnections rows => "Importing " ++ toString rows ++ " public transport sections"
  | .sectionAdded id nodeFrom nodeTo =>
    "Road section " ++ idText id ++ " added between nodes " ++ idText nodeFrom ++ " and "
      ++ idText nodeTo
  | .stationUnresolved stop network station =>
    "Stop " ++ idText stop ++ " of network " ++ network ++ ": parent station " ++ idText station
      ++ " not resolved"
  | .rowSkipped kind cause => "Skipping " ++ kind.label ++ " row: " ++ cause.message
  | .rowsSkipped rows => "Skipped " ++ toString rows ++ " invalid rows"
  | .imported summary => "Imported " ++ summary
  | .rowsRead rows kind path =>
    "Read " ++ toString rows ++ " " ++ kind.label ++ " rows from " ++ path

end Note

/-- What an import reports. -/
inductive Event where
  /-- A row was accepted or left out. Rows of a kind are counted from zero through all networks. -/
  | row (kind : RecordKind) (position total : Nat)
  /-- Everything is imported. -/
  | finished
  /-- A line for the log. -/
  | note (line : Note)
  deriving DecidableEq, Repr

/-- The phase in which records of a kind are imported. -/
def RecordKind.phase : RecordKind → Nat
  | .roadNode => 0
  | .roadSection => 1
  | .stop => 2
  | .transitSection => 3

/-- How many phases an import has. -/
def phaseCount : Nat := 4

/-- How far work in phases has come before a row, in numbers of any kind: every phase owns an equal
slot of the whole, and its rows are spread over the slot.
mirrors `row` -/
def slotFraction {K : Type} [Add K] [Mul K] [Div K] (number : Nat → K)
    (phases phase row total : Nat) : K :=
  let slot := number 1 / number phases
  slot * number phase + slot * (number row / number total)

/-- How far an import has come at a row, computed in doubles and rounded to thirty-two bits. -/
def progressFraction (kind : RecordKind) (position total : Nat) : Float32 :=
  (slotFraction Nat.toFloat phaseCount kind.phase position total).toFloat32

/-- The progress an event announces: how far the import has come and whether it is done. A phase
without rows announces nothing.
mirrors `row` and `finish` -/
def Event.progress? : Event → Option (Float32 × Bool)
  | .row kind position total =>
    if total = 0 then none else some (progressFraction kind position total, false)
  | .finished => some (1.0, true)
  | .note _ => none

/-- The line an event writes to the log. -/
def Event.note? : Event → Option Note
  | .note line => some line
  | _ => none

end Multimodal
