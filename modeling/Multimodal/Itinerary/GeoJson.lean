import Multimodal.Geometry.Wkb
import Multimodal.Itinerary.Json

/-!
# Itineraries as GeoJSON

Every leg becomes one feature: its geometry, and properties that describe it. How a geometry is
decoded from octets is a parameter; `Itinerary.toGeoJson` uses well-known binary. The first leg
whose geometry cannot be decoded fails the whole export.
-/
namespace Multimodal

/-- A double among properties. One that is not finite is `null`. -/
def Json.ofReal (x : Float) : Json := if x.isFinite then .real x else .null

/-- Costs among properties, as a map from the names of criteria to values. -/
def Json.ofCostMap (costs : Costs Float) : Json :=
  .obj (toMap (costs.toList.map fun (criterion, value) => (criterion.name, ofReal value)))

/-- A leg on a map. -/
structure Feature where
  geometry : Option Geometry
  properties : List (String × Json)
  deriving Repr, Inhabited

/-- The properties of every leg: its place among all, its mode and its costs. -/
def Leg.commonProperties (index : Nat) (leg : Leg Float) : List (String × Json) :=
  [ ("step_index", Json.ofNat index), ("transport_mode", Json.ofInt64 leg.mode),
    ("costs", Json.ofCostMap leg.costs) ]

/-- The properties that only legs of one kind have. -/
def LegKind.properties : LegKind → List (String × Json)
  | .road leg =>
    [ ("leg_type", .str "road"), ("road_section", Json.ofInt64 leg.roadSection),
      ("road_name", .str leg.roadName), ("distance_km", Json.ofOption Json.ofReal leg.distance.km?),
      ("end_movement", Json.ofMovement leg.movement) ]
  | .transit leg =>
    [ ("leg_type", .str "public_transport"), ("network_id", Json.ofInt64 leg.networkId),
      ("route", .str leg.route), ("trip_id", Json.ofInt64 leg.tripId),
      ("from_name", .str leg.departureName), ("to_name", .str leg.arrivalName),
      ("wait", Json.ofReal leg.wait), ("departure_time", Json.ofReal leg.departureTime),
      ("arrival_time", Json.ofReal leg.arrivalTime) ]
  | .transfer leg =>
    [ ("leg_type", .str "transfer"), ("from_name", .str leg.initialName),
      ("to_name", .str leg.finalName), ("final_mode", Json.ofInt64 leg.finalMode) ]

/-- The properties of a leg as a map. Those of its kind are put into the common ones. -/
def Leg.properties (index : Nat) (leg : Leg Float) : List (String × Json) :=
  Json.extend (Json.toMap (leg.commonProperties index)) (Json.toMap leg.kind.properties)

def Leg.shape (decode : List UInt8 → Except String Geometry) (leg : Leg Float) :
    Except Failure (Option Geometry) :=
  match leg.geometry with
  | none => .ok none
  | some octets => ((decode octets).mapError .geometry).map some

/-- The features of legs, counted from `index`.
mirrors `step_to_feature` -/
def featuresFrom (decode : List UInt8 → Except String Geometry) :
    Nat → List (Leg Float) → Except Failure (List Feature)
  | _, [] => .ok []
  | index, leg :: rest => do
    let geometry ← leg.shape decode
    let features ← featuresFrom decode (index + 1) rest
    return ⟨geometry, leg.properties index⟩ :: features

def Feature.toJson (f : Feature) : Json :=
  .obj [("type", .str "Feature"), ("geometry", Json.ofOption Geometry.toJson f.geometry),
    ("properties", .obj f.properties)]

namespace Itinerary

/-- The features of an itinerary, one for each leg.
mirrors `to_geojson` -/
def features (decode : List UInt8 → Except String Geometry) (it : Itinerary Float) :
    Except Failure (List Feature) :=
  featuresFrom decode 0 it.legs

/-- mirrors `decode_geometry` -/
def decodeGeometry (octets : List UInt8) : Except String Geometry :=
  match Wkb.decode? octets with
  | some geometry => .ok geometry
  | none => .error "could not decode wkb"

/-- An itinerary as a collection of features. -/
def toGeoJsonWith (decode : List UInt8 → Except String Geometry) (it : Itinerary Float) :
    Except Failure Json := do
  let features ← it.features decode
  return .obj [("type", .str "FeatureCollection"), ("features", .arr (features.map Feature.toJson))]

/-- An itinerary as a collection of features, its geometries in well-known binary form. -/
def toGeoJson (it : Itinerary Float) : Except Failure Json := it.toGeoJsonWith decodeGeometry

end Itinerary

end Multimodal
