import Multimodal.Configuration
import Multimodal.Csv.Rows
import Multimodal.Import.Run

/-!
# Importing from directories

The rows of a network stored as tables: nodes and sections in one directory, stops and connections
in one directory for each public transport network. A configuration is checked as a whole before
the first table is read.
-/
namespace Multimodal

def nodeFile : String := "road_node.csv"

def sectionFile : String := "road_section.csv"

def stopFile : String := "pt_stop.csv"

def connectionFile : String := "pt_section.csv"

/-- Reads the table at a path as rows of a kind. A directory can be opened like a file; as a table
it has no rows.
mirrors `deserialize_records` -/
def readRowsAt {ρ : Type} (storage : Storage) (fields : List (RecordField String ρ)) (start : ρ)
    (kind : RecordKind) (path : String) : Except Failure (List ρ) :=
  match storage.read path with
  | .error .isADirectory => .ok []
  | .error fault => .error (.sourceUnavailable kind (.unopened path fault))
  | .ok octets =>
    (Csv.readTable fields start octets).mapError fun (row, fault) =>
      .malformedRecord kind row (.unusable path fault)

def readNodeRows (storage : Storage) (path : String) : Except Failure (List NodeRow) :=
  readRowsAt storage (NodeRow.fields .cell) {} .roadNode path

def readSectionRows (storage : Storage) (path : String) : Except Failure (List SectionRow) :=
  readRowsAt storage (SectionRow.fields .cell) {} .roadSection path

def readStopRows (storage : Storage) (path : String) : Except Failure (List StopRow) :=
  readRowsAt storage (StopRow.fields .cell) {} .stop path

def readConnectionRows (storage : Storage) (path : String) : Except Failure (List ConnectionRow) :=
  readRowsAt storage (ConnectionRow.fields .cell) ⟨0, 0⟩ .transitSection path

/-- mirrors `load_network` -/
def TransitDirectory.rows (storage : Storage) (d : TransitDirectory) :
    Except Failure TransitRows := do
  let stops ← readStopRows storage (joinPath d.dir stopFile)
  let connections ← readConnectionRows storage (joinPath d.dir connectionFile)
  return { networkId := d.id, name := d.name, stops, connections }

namespace Configuration

/-- The rows that a configuration leads to.
mirrors `from_config` -/
def source (storage : Storage) (c : Configuration) : RowSource where
  nodes := readNodeRows storage (joinPath c.roadDir nodeFile)
  sections := readSectionRows storage (joinPath c.roadDir sectionFile)
  networks := c.transit.mapM (TransitDirectory.rows storage)

/-- The line about a table that was read, nothing if it was not. -/
def readNote {ρ : Type} (kind : RecordKind) (path : String) : Except Failure (List ρ) → List Note
  | .ok rows => [.rowsRead rows.length kind path]
  | .error _ => []

/-- One line for each table of a public transport network that can be read. -/
def transitNotes (storage : Storage) (d : TransitDirectory) : List Note :=
  let stopPath := joinPath d.dir stopFile
  let connectionPath := joinPath d.dir connectionFile
  readNote .stop stopPath (readStopRows storage stopPath) ++
    readNote .transitSection connectionPath (readConnectionRows storage connectionPath)

/-- One line for each table that can be read. -/
def readNotes (storage : Storage) (c : Configuration) : List Note :=
  let source := c.source storage
  readNote .roadNode (joinPath c.roadDir nodeFile) source.nodes ++
    readNote .roadSection (joinPath c.roadDir sectionFile) source.sections ++
    c.transit.flatMap (transitNotes storage)

/-- Imports the network of a configuration.
mirrors `create_multimodal_graph` -/
def importNetwork (storage : Storage) (c : Configuration) : Report Network := do
  Report.ofExcept (c.check storage.isDirectory)
  Report.log [.importingFrom c.roadDir c.transit.length]
  Multimodal.importNetwork (c.source storage) c.options

end Configuration

end Multimodal
