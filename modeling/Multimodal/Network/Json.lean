import Multimodal.Json.Decode
import Multimodal.Network

/-!
# Networks as JSON

The parts of a network in their data form, in both directions.
-/
namespace Multimodal.Json

open RecordField (required optional)

def asRoadType : Json → Decoded RoadType := asName .text (RoadType.all.map fun t => (t.name, t))

/-- A set of modes, as its bits. -/
def asModes (v : Json) : Decoded Modes := (asUInt32 v).map Modes.mk

def roadNodeFields : List (RecordField Json RoadNode) :=
  [ required "db_id" asInt64 fun v r => { r with id := v },
    required "is_junction" asBool fun v r => { r with isJunction := v },
    required "is_bifurcation" asBool fun v r => { r with isBifurcation := v } ]

def asRoadNode : Json → Decoded RoadNode := asRecord roadNodeFields default

def ofRoadNode (n : RoadNode) : Json :=
  .obj [("db_id", ofInt64 n.id), ("is_junction", .bool n.isJunction),
    ("is_bifurcation", .bool n.isBifurcation)]

def roadSectionFields : List (RecordField Json RoadSection) :=
  [ required "db_id" asInt64 fun v r => { r with id := v },
    optional "road_type" (asOptional asRoadType) fun v r => { r with roadType := v },
    required "transport_type_ft" asModes fun v r => { r with forwardModes := v },
    required "transport_type_tf" asModes fun v r => { r with backwardModes := v },
    required "length" asFloat fun v r => { r with length := v },
    required "car_speed_limit" asFloat fun v r => { r with carSpeedLimit := v },
    required "car_average_speed" asFloat fun v r => { r with carAverageSpeed := v },
    required "transit_average_speed" asFloat fun v r => { r with transitAverageSpeed := v },
    required "road_name" asText fun v r => { r with roadName := v },
    required "address_left_side" asText fun v r => { r with leftAddresses := v },
    required "address_right_side" asText fun v r => { r with rightAddresses := v },
    required "lane" asInt32 fun v r => { r with lanes := v },
    required "is_roundabout" asBool fun v r => { r with isRoundabout := v },
    required "is_bridge" asBool fun v r => { r with isBridge := v },
    required "is_tunnel" asBool fun v r => { r with isTunnel := v },
    required "is_ramp" asBool fun v r => { r with isRamp := v },
    required "is_tollway" asBool fun v r => { r with isTollway := v } ]

/-- A section to start from while its fields are read. -/
def blankRoadSection : RoadSection :=
  { id := 0, roadType := none, forwardModes := Modes.none, backwardModes := Modes.none, length := 0
    carSpeedLimit := 0, carAverageSpeed := 0, transitAverageSpeed := 0, roadName := ""
    leftAddresses := "", rightAddresses := "", lanes := 0, isRoundabout := false, isBridge := false
    isTunnel := false, isRamp := false, isTollway := false }

def asRoadSection : Json → Decoded RoadSection := asRecord roadSectionFields blankRoadSection

def ofRoadType (t : RoadType) : Json := .str t.name

def ofModes (m : Modes) : Json := ofNat m.bits.toNat

def roadSectionMembers (s : RoadSection) : List (String × Json) :=
  [ ("db_id", ofInt64 s.id), ("road_type", ofOption ofRoadType s.roadType),
    ("transport_type_ft", ofModes s.forwardModes), ("transport_type_tf", ofModes s.backwardModes),
    ("length", .real s.length), ("car_speed_limit", .real s.carSpeedLimit),
    ("car_average_speed", .real s.carAverageSpeed),
    ("transit_average_speed", .real s.transitAverageSpeed), ("road_name", .str s.roadName),
    ("address_left_side", .str s.leftAddresses), ("address_right_side", .str s.rightAddresses),
    ("lane", .int s.lanes.toInt), ("is_roundabout", .bool s.isRoundabout),
    ("is_bridge", .bool s.isBridge), ("is_tunnel", .bool s.isTunnel), ("is_ramp", .bool s.isRamp),
    ("is_tollway", .bool s.isTollway) ]

def ofRoadSection (s : RoadSection) : Json := .obj (roadSectionMembers s)

def stopFields : List (RecordField Json Stop) :=
  [ required "db_id" asInt64 fun v r => { r with id := v },
    required "name" asText fun v r => { r with name := v },
    required "is_station" asBool fun v r => { r with isStation := v },
    optional "parent_station" (asOptional asHandle) fun v r => { r with parent := v },
    required "road_section" asHandle fun v r => { r with roadSection := v },
    required "zone_id" asText fun v r => { r with zone := v },
    required "abscissa_road_section" asFloat fun v r => { r with abscissa := v } ]

def asStop : Json → Decoded Stop := asRecord stopFields default

def ofStop (s : Stop) : Json :=
  .obj
    [ ("db_id", ofInt64 s.id), ("name", .str s.name), ("is_station", .bool s.isStation),
      ("parent_station", ofOption ofNat s.parent), ("road_section", ofNat s.roadSection),
      ("zone_id", .str s.zone), ("abscissa_road_section", .real s.abscissa) ]

/-! ## Places -/

def transitPlaceFields : List (RecordField Json (UInt64 × UInt32)) :=
  [ required "network" asUInt64 fun v r => (v, r.2),
    required "stop" asUInt32 fun v r => (r.1, v) ]

/-- A place in the whole network: an object with one member, named for the kind of place. -/
def asVertex : Json → Decoded Vertex
  | .obj [("Road", v)] => (asUInt32 v).map .road
  | .obj [("PublicTransport", v)] =>
    (asRecord transitPlaceFields (0, 0) v).map fun (network, stop) => .transit network stop
  | _ => .error .shape

def ofVertex : Vertex → Json
  | .road node => .obj [("Road", ofNat node.toNat)]
  | .transit network stop =>
    .obj
      [("PublicTransport", .obj [("network", ofNat network.toNat), ("stop", ofNat stop.toNat)])]

def edgeFields : List (RecordField Json Edge) :=
  [ required "source" asVertex fun v r => { r with source := v },
    required "target" asVertex fun v r => { r with target := v } ]

def asEdge : Json → Decoded Edge := asRecord edgeFields default

def ofEdge (e : Edge) : Json := .obj [("source", ofVertex e.source), ("target", ofVertex e.target)]

end Multimodal.Json
