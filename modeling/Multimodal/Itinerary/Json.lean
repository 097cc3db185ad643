import Multimodal.Itinerary.Basic
import Multimodal.Json.Printer
import Multimodal.Network.Json

/-!
# Itineraries as JSON

Costs, legs and itineraries in their data form, in both directions. A kind of leg is read only after
its whole object was: the member `type` says how to read the others, wherever it stands.
-/
namespace Multimodal.Json

open RecordField (required optional)

/-! ## Costs -/

def asCriterion : Json → Decoded Criterion := asName .text (Criterion.all.map fun c => (c.name, c))

/-- Costs, as an object from the names of criteria to values. -/
def asCosts : Json → Decoded (Costs Float)
  | .obj members => do
    let values ← members.mapM fun (name, v) => do
      let criterion ← asCriterion (.str name)
      let value ← asFloat v
      return (criterion, value)
    return Costs.ofList values
  | _ => .error .shape

/-- Costs in the order of their entries. -/
def ofCostEntries (entries : List (Criterion × Float)) : Json :=
  .obj (entries.map fun (criterion, value) => (criterion.name, .real value))

def ofCosts (costs : Costs Float) : Json := ofCostEntries costs.toList

/-! ## Kinds of legs -/

def asKilometers (v : Json) : Decoded Kilometers := do
  let km ← asFloat v
  match Kilometers.ofFloat km with
  | .ok distance => return distance
  | .error _ => throw (.distance km)

/-- How far a leg goes: kilometers under their name, or the name of the end of the section. -/
def asDistance (medium : Medium) : Json → Decoded TraversedDistance
  | .obj (("km", v) :: rest) =>
    if medium = .text ∨ rest.isEmpty then do
      let distance ← asKilometers v
      if rest.isEmpty then return .km distance else throw .shape
    else .error .shape
  | v => asName medium [("until_section_end", .untilSectionEnd)] v

def ofDistance : TraversedDistance → Json
  | .km distance => .obj [("km", .real distance.value)]
  | .untilSectionEnd => .str "until_section_end"

def asMovement (medium : Medium) : Json → Decoded Movement :=
  asName medium (Movement.all.map fun m => (m.name, m))

def ofMovement (m : Movement) : Json := .str m.name

def asLegType : Json → Decoded LegType := asName .text (LegType.all.map fun t => (t.name, t))

def roadLegFields : List (RecordField Json RoadLeg) :=
  [ required "road_section" asInt64 fun v r => { r with roadSection := v },
    required "road_name" asText fun v r => { r with roadName := v },
    required "distance" (asDistance .buffer) fun v r => { r with distance := v },
    required "end_movement" (asMovement .buffer) fun v r => { r with movement := v } ]

def transitLegFields : List (RecordField Json TransitLeg) :=
  [ required "network_id" asInt64 fun v r => { r with networkId := v },
    required "wait" asFloat fun v r => { r with wait := v },
    required "departure_time" asFloat fun v r => { r with departureTime := v },
    required "arrival_time" asFloat fun v r => { r with arrivalTime := v },
    required "trip_id" asInt64 fun v r => { r with tripId := v },
    required "departure_stop" asInt64 fun v r => { r with departureStop := v },
    required "departure_name" asText fun v r => { r with departureName := v },
    required "arrival_stop" asInt64 fun v r => { r with arrivalStop := v },
    required "arrival_name" asText fun v r => { r with arrivalName := v },
    required "route" asText fun v r => { r with route := v } ]

def transferLegFields : List (RecordField Json TransferLeg) :=
  [ required "edge" asEdge fun v r => { r with edge := v },
    required "final_mode" asInt64 fun v r => { r with finalMode := v },
    required "initial_name" asText fun v r => { r with initialName := v },
    required "final_name" asText fun v r => { r with finalName := v } ]

/-- A leg of a given type from the rest of its value. -/
def asLegOfType (type : LegType) (body : Json) : Decoded LegKind :=
  match type with
  | .road => (asRecord roadLegFields ⟨0, "", .untilSectionEnd, .goAhead⟩ body).map .road
  | .transit => (asRecord transitLegFields default body).map .transit
  | .transfer => (asRecord transferLegFields default body).map .transfer

/-- A kind of leg: an object with a member `type`, or a list that starts with the type. -/
def asLegKind (v : Json) : Decoded LegKind :=
  if v.isReadable then
    match v with
    | .obj members =>
      match members.filter (·.1 == "type") with
      | [(_, .str name)] => do
        let type ← asLegType (.str name)
        asLegOfType type (.obj (members.filter (·.1 != "type")))
      | _ => .error .shape
    | .arr (.str name :: items) => do
      let type ← asLegType (.str name)
      asLegOfType type (.arr items)
    | _ => .error .shape
  else .error .shape

/-- The members of a kind of leg beside its type. -/
def legMembers : LegKind → List (String × Json)
  | .road leg =>
    [ ("road_section", ofInt64 leg.roadSection), ("road_name", .str leg.roadName),
      ("distance", ofDistance leg.distance), ("end_movement", ofMovement leg.movement) ]
  | .transit leg =>
    [ ("network_id", ofInt64 leg.networkId), ("wait", .real leg.wait),
      ("departure_time", .real leg.departureTime), ("arrival_time", .real leg.arrivalTime),
      ("trip_id", ofInt64 leg.tripId), ("departure_stop", ofInt64 leg.departureStop),
      ("departure_name", .str leg.departureName), ("arrival_stop", ofInt64 leg.arrivalStop),
      ("arrival_name", .str leg.arrivalName), ("route", .str leg.route) ]
  | .transfer leg =>
    [ ("edge", ofEdge leg.edge), ("final_mode", ofInt64 leg.finalMode),
      ("initial_name", .str leg.initialName), ("final_name", .str leg.finalName) ]

def ofLegType (t : LegType) : Json := .str t.name

def ofLegKind (kind : LegKind) : Json := .obj (("type", ofLegType kind.type) :: legMembers kind)

/-! ## Legs and itineraries -/

def legFields : List (RecordField Json (Leg Float)) :=
  [ required "kind" asLegKind fun v r => { r with kind := v },
    required "costs" asCosts fun v r => { r with costs := v },
    required "transport_mode" asInt64 fun v r => { r with mode := v },
    optional "geometry_wkb" (asOptional asOctets) fun v r => { r with geometry := v } ]

def asLeg : Json → Decoded (Leg Float) :=
  asRecord legFields (Leg.new (.transfer default) 0)

/-- A leg whose costs are met in the order of `entries`. -/
def ofLegWith (entries : List (Criterion × Float)) (leg : Leg Float) : Json :=
  .obj
    [ ("kind", ofLegKind leg.kind), ("costs", ofCostEntries entries),
      ("transport_mode", ofInt64 leg.mode), ("geometry_wkb", ofOption ofOctets leg.geometry) ]

def ofLeg (leg : Leg Float) : Json := ofLegWith leg.costs.toList leg

def traceEdgeFields : List (RecordField Json TraceEdge) :=
  [ required "edge" asEdge fun v r => { r with edge := v },
    required "attributes" asMap fun v r => { r with attributes := v } ]

def asTraceEdge : Json → Decoded TraceEdge := asRecord traceEdgeFields default

def ofTraceEdge (e : TraceEdge) : Json :=
  .obj [("edge", ofEdge e.edge), ("attributes", .obj e.attributes.members)]

/-- A moment in its text form. -/
def asDateTime : Json → Decoded DateTime
  | .str text => (DateTime.read? text).elim (.error .shape) .ok
  | _ => .error .shape

def itineraryFields : List (RecordField Json (Itinerary Float)) :=
  [ required "steps" (asList asLeg) fun v r => { r with legs := v },
    required "starting_date_time" asDateTime fun v r => { r with start := v },
    optional "trace" (asOptional (asList asTraceEdge)) fun v r => { r with trace := v } ]

def asItinerary : Json → Decoded (Itinerary Float) := asRecord itineraryFields Itinerary.empty

/-- An itinerary around the encodings of its legs. -/
def ofItineraryAround (steps : List Json) (it : Itinerary Float) : Json :=
  .obj
    [ ("steps", .arr steps), ("starting_date_time", .str it.start.text),
      ("trace", ofOption (ofList ofTraceEdge) it.trace) ]

/-- An itinerary whose costs are met in the order of `visits`, leg by leg. -/
def ofItineraryWith (visits : List (List (Criterion × Float))) (it : Itinerary Float) : Json :=
  ofItineraryAround (visits.zipWith ofLegWith it.legs) it

def ofItinerary (it : Itinerary Float) : Json := ofItineraryAround (it.legs.map ofLeg) it

end Multimodal.Json

namespace Multimodal.Itinerary

/-- An itinerary as JSON text. The costs of a leg have no order of their own: they are met in that
of `visits`.
mirrors `to_json_string` -/
def toTextWith (visits : List (List (Criterion × Float))) (it : Itinerary Float) : String :=
  (Json.ofItineraryWith visits it).print

/-- An itinerary as JSON text, its costs in the order of criteria. -/
def toText (it : Itinerary Float) : String := (Json.ofItinerary it).print

/-- The itinerary of a JSON text. -/
def ofText (text : String) : Decoded (Itinerary Float) := Json.decodeText Json.asItinerary text

end Multimodal.Itinerary
