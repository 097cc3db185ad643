import Multimodal.Json.Decode
import Multimodal.Network

/-!
# Stored records

The rows from which networks are imported, as they are stored: records refer to each other by id,
and nothing has been checked yet. One list of fields for each kind of row serves every format,
given how the format reads the values; `RowFormat` is such a reading.
-/
namespace Multimodal

structure NodeRow where
  id : RecordId := 0
  isJunction : Bool := false
  isBifurcation : Bool := false
  deriving DecidableEq, Repr, Inhabited

structure SectionRow where
  id : RecordId := 0
  roadType : Option Int32 := none
  nodeFrom : RecordId := 0
  nodeTo : RecordId := 0
  forwardModes : UInt32 := 0
  backwardModes : UInt32 := 0
  length : Float := 0
  carSpeedLimit : Float := 0
  carAverageSpeed : Float := 0
  transitAverageSpeed : Float := 0
  roadName : String := ""
  leftAddresses : String := ""
  rightAddresses : String := ""
  lanes : Int32 := 0
  isRoundabout : Bool := false
  isBridge : Bool := false
  isTunnel : Bool := false
  isRamp : Bool := false
  isTollway : Bool := false
  deriving DecidableEq, Repr, Inhabited

structure StopRow where
  id : RecordId := 0
  name : String := ""
  isStation : Bool := false
  parentStation : Option RecordId := none
  roadSection : RecordId := 0
  zone : String := ""
  abscissa : Float := 0
  deriving DecidableEq, Repr, Inhabited

/-- The id of the station a stop declares. Zero stands for none.
mirrors `parent_id` -/
def StopRow.parentId (row : StopRow) : Option RecordId := row.parentStation.filter (· != 0)

structure ConnectionRow where
  stopFrom : RecordId
  stopTo : RecordId
  deriving DecidableEq, Repr, Inhabited

/-- The rows of one public transport network. -/
structure TransitRows where
  networkId : RecordId
  name : String
  stops : List StopRow
  connections : List ConnectionRow
  deriving DecidableEq, Repr, Inhabited

/-- Where an import takes its rows from: three streams, each with its rows or the reason why there
are none. -/
structure RowSource where
  nodes : Except Failure (List NodeRow)
  sections : Except Failure (List SectionRow)
  networks : Except Failure (List TransitRows)

/-- Rows held in memory. -/
structure MemoryRows where
  nodes : List NodeRow := []
  sections : List SectionRow := []
  networks : List TransitRows := []
  deriving DecidableEq, Repr, Inhabited

/-- A source that always delivers. -/
def MemoryRows.source (rows : MemoryRows) : RowSource :=
  ⟨.ok rows.nodes, .ok rows.sections, .ok rows.networks⟩

/-! ## Fields -/

/-- How a format reads the values of rows. -/
structure RowFormat (ν : Type) where
  int64 : ν → Decoded Int64
  int32 : ν → Decoded Int32
  optionalInt32 : ν → Decoded (Option Int32)
  uint32 : ν → Decoded UInt32
  float : ν → Decoded Float
  text : ν → Decoded String
  flag : ν → Decoded Bool
  optionalId : ν → Decoded (Option Int64)

def RowFormat.json : RowFormat Json where
  int64 := Json.asInt64
  int32 := Json.asInt32
  optionalInt32 := Json.asOptional Json.asInt32
  uint32 := Json.asUInt32
  float := Json.asFloat
  text := Json.asText
  flag := Json.asFlag
  optionalId := Json.asOptionalId

variable {ν : Type}

open RecordField (required defaulted)

def NodeRow.fields (f : RowFormat ν) : List (RecordField ν NodeRow) :=
  [ defaulted "id" f.int64 fun v r => { r with id := v },
    defaulted "is_junction" f.flag fun v r => { r with isJunction := v },
    defaulted "is_bifurcation" f.flag fun v r => { r with isBifurcation := v } ]

def SectionRow.fields (f : RowFormat ν) : List (RecordField ν SectionRow) :=
  [ defaulted "id" f.int64 fun v r => { r with id := v },
    defaulted "road_type" f.optionalInt32 fun v r => { r with roadType := v },
    defaulted "node_from" f.int64 fun v r => { r with nodeFrom := v },
    defaulted "node_to" f.int64 fun v r => { r with nodeTo := v },
    defaulted "transport_type_forward" f.uint32 fun v r => { r with forwardModes := v },
    defaulted "transport_type_backward" f.uint32 fun v r => { r with backwardModes := v },
    defaulted "length" f.float fun v r => { r with length := v },
    defaulted "car_speed_limit" f.float fun v r => { r with carSpeedLimit := v },
    defaulted "car_average_speed" f.float fun v r => { r with carAverageSpeed := v },
    defaulted "transit_average_speed" f.float fun v r => { r with transitAverageSpeed := v },
    defaulted "road_name" f.text fun v r => { r with roadName := v },
    defaulted "address_left" f.text fun v r => { r with leftAddresses := v },
    defaulted "address_right" f.text fun v r => { r with rightAddresses := v },
    defaulted "lane_count" f.int32 fun v r => { r with lanes := v },
    defaulted "is_roundabout" f.flag fun v r => { r with isRoundabout := v },
    defaulted "is_bridge" f.flag fun v r => { r with isBridge := v },
    defaulted "is_tunnel" f.flag fun v r => { r with isTunnel := v },
    defaulted "is_ramp" f.flag fun v r => { r with isRamp := v },
    defaulted "is_tollway" f.flag fun v r => { r with isTollway := v } ]

def StopRow.fields (f : RowFormat ν) : List (RecordField ν StopRow) :=
  [ defaulted "id" f.int64 fun v r => { r with id := v },
    defaulted "name" f.text fun v r => { r with name := v },
    defaulted "is_station" f.flag fun v r => { r with isStation := v },
    defaulted "parent_station" f.optionalId fun v r => { r with parentStation := v },
    defaulted "road_section_id" f.int64 fun v r => { r with roadSection := v },
    defaulted "zone_id" f.text fun v r => { r with zone := v },
    defaulted "abscissa" f.float fun v r => { r with abscissa := v } ]

def ConnectionRow.fields (f : RowFormat ν) : List (RecordField ν ConnectionRow) :=
  [ required "stop_from" f.int64 fun v r => { r with stopFrom := v },
    required "stop_to" f.int64 fun v r => { r with stopTo := v } ]

/-! ## JSON -/

namespace Json

def asNodeRow : Json → Decoded NodeRow := asRecord (NodeRow.fields RowFormat.json) {}

def asSectionRow : Json → Decoded SectionRow := asRecord (SectionRow.fields RowFormat.json) {}

def asStopRow : Json → Decoded StopRow := asRecord (StopRow.fields RowFormat.json) {}

def asConnectionRow : Json → Decoded ConnectionRow :=
  asRecord (ConnectionRow.fields RowFormat.json) ⟨0, 0⟩

def ofNodeRow (r : NodeRow) : Json :=
  .obj [("id", ofInt64 r.id), ("is_junction", .bool r.isJunction),
    ("is_bifurcation", .bool r.isBifurcation)]

def ofSectionRow (r : SectionRow) : Json :=
  .obj
    [ ("id", ofInt64 r.id), ("road_type", ofOption (fun c => .int c.toInt) r.roadType),
      ("node_from", ofInt64 r.nodeFrom), ("node_to", ofInt64 r.nodeTo),
      ("transport_type_forward", ofNat r.forwardModes.toNat),
      ("transport_type_backward", ofNat r.backwardModes.toNat), ("length", .real r.length),
      ("car_speed_limit", .real r.carSpeedLimit), ("car_average_speed", .real r.carAverageSpeed),
      ("transit_average_speed", .real r.transitAverageSpeed), ("road_name", .str r.roadName),
      ("address_left", .str r.leftAddresses), ("address_right", .str r.rightAddresses),
      ("lane_count", .int r.lanes.toInt), ("is_roundabout", .bool r.isRoundabout),
      ("is_bridge", .bool r.isBridge), ("is_tunnel", .bool r.isTunnel), ("is_ramp", .bool r.isRamp),
      ("is_tollway", .bool r.isTollway) ]

def ofStopRow (r : StopRow) : Json :=
  .obj
    [ ("id", ofInt64 r.id), ("name", .str r.name), ("is_station", .bool r.isStation),
      ("parent_station", ofOption ofInt64 r.parentStation),
      ("road_section_id", ofInt64 r.roadSection), ("zone_id", .str r.zone),
      ("abscissa", .real r.abscissa) ]

def ofConnectionRow (r : ConnectionRow) : Json :=
  .obj [("stop_from", ofInt64 r.stopFrom), ("stop_to", ofInt64 r.stopTo)]

end Json

end Multimodal
