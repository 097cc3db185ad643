import Multimodal.Json.Decode

/-!
# Import options

What an import does with a row that it cannot use, and when it looks for the station of a stop.
-/
namespace Multimodal

/-- What becomes of the import at a row that cannot be used. -/
inductive RowPolicy where
  /-- The import ends with the row's failure. -/
  | fail
  /-- The row is counted and left out. -/
  | skip
  deriving DecidableEq, Repr, Inhabited

def RowPolicy.name : RowPolicy → String
  | .fail => "fail"
  | .skip => "skip"

/-- When the station of a stop is looked for. -/
inductive StationLinking where
  /-- With the stop itself, so that only stations above it in the stream are found. -/
  | singlePass
  /-- After all stops of the network. -/
  | twoPass
  deriving DecidableEq, Repr, Inhabited

def StationLinking.name : StationLinking → String
  | .singlePass => "single_pass"
  | .twoPass => "two_pass"

/-- The choices of an import. -/
structure ImportOptions where
  onRowError : RowPolicy := .fail
  stationLinking : StationLinking := .singlePass
  deriving DecidableEq, Repr, Inhabited

namespace Json

def asRowPolicy (medium : Medium) : Json → Decoded RowPolicy :=
  asName medium ([.fail, .skip].map fun p => (RowPolicy.name p, p))

def asStationLinking (medium : Medium) : Json → Decoded StationLinking :=
  asName medium ([.singlePass, .twoPass].map fun l => (StationLinking.name l, l))

def importOptionsFields (medium : Medium) : List (RecordField Json ImportOptions) :=
  [ .defaulted "on_row_error" (asRowPolicy medium) fun v r => { r with onRowError := v },
    .defaulted "parent_station" (asStationLinking medium) fun v r =>
      { r with stationLinking := v } ]

/-- Import options. What is not said keeps its default. -/
def asImportOptions (medium : Medium) : Json → Decoded ImportOptions :=
  asRecordIn medium (importOptionsFields medium) {}

def ofImportOptions (o : ImportOptions) : Json :=
  .obj [("on_row_error", .str o.onRowError.name), ("parent_station", .str o.stationLinking.name)]

end Json

end Multimodal
