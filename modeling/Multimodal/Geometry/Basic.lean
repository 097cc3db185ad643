import Multimodal.Json.Value

/-!
# Geometries

Points, lines and areas in the plane, alone, repeated or collected, and their form as GeoJSON.
-/
namespace Multimodal

/-- A point of the plane. -/
structure Position where
  x : Float
  y : Float
  deriving DecidableEq, Repr, Inhabited

/-- Whether two positions have the same coordinates, as numbers. -/
def Position.agrees (p q : Position) : Bool := p.x == q.x && p.y == q.y

/-- A shape in the plane. The first ring of an area is its outline and the others are holes. -/
inductive Geometry where
  | point (p : Position)
  | lineString (ps : List Position)
  | polygon (rings : List (List Position))
  | multiPoint (ps : List Position)
  | multiLineString (lines : List (List Position))
  | multiPolygon (areas : List (List (List Position)))
  | collection (parts : List Geometry)
  deriving Repr, Inhabited

namespace Geometry

/-- A ring that ends where it starts: the first position is repeated unless it is there already. -/
def closeRing (ring : List Position) : List Position :=
  match ring.head?, ring.getLast? with
  | some first, some last => if first.agrees last then ring else ring ++ [first]
  | _, _ => ring

/-- The area within rings. There is none without an outline, whatever its holes. -/
def area (rings : List (List Position)) : List (List Position) :=
  match rings with
  | [] => []
  | [] :: _ => []
  | rings => rings.map closeRing

/-! ## GeoJSON -/

/-- A position as the list of its coordinates. -/
def positionJson (p : Position) : Json := .arr [.real p.x, .real p.y]

def lineJson (ps : List Position) : Json := .arr (ps.map positionJson)

def linesJson (lines : List (List Position)) : Json := .arr (lines.map lineJson)

def typedJson (type : String) (coordinates : Json) : Json :=
  .obj [("type", .str type), ("coordinates", coordinates)]

mutual

def toJson : Geometry → Json
  | .point p => typedJson "Point" (positionJson p)
  | .lineString ps => typedJson "LineString" (lineJson ps)
  | .polygon rings => typedJson "Polygon" (linesJson rings)
  | .multiPoint ps => typedJson "MultiPoint" (lineJson ps)
  | .multiLineString lines => typedJson "MultiLineString" (linesJson lines)
  | .multiPolygon areas => typedJson "MultiPolygon" (.arr (areas.map linesJson))
  | .collection parts =>
    .obj [("type", .str "GeometryCollection"), ("geometries", .arr (partsJson parts))]

def partsJson : List Geometry → List Json
  | [] => []
  | part :: rest => toJson part :: partsJson rest

end

end Geometry

end Multimodal
