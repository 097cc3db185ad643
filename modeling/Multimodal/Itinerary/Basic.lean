import Multimodal.DateTime
import Multimodal.Itinerary.Leg
import Multimodal.Json.Value

/-!
# Itineraries

An itinerary is one way to get from a start to an end: its legs in the order of travel, the moment
of departure, and possibly a trace of the edges that a search went through.
-/
namespace Multimodal

/-- An edge that a search went through, with whatever was noted about it. -/
structure TraceEdge where
  edge : Edge
  attributes : Json.Map
  deriving Repr, Inhabited

/-- Equality, with numbers compared as numbers. -/
def TraceEdge.agrees (a b : TraceEdge) : Bool :=
  a.edge == b.edge && Json.membersAgree a.attributes.members b.attributes.members

/-- Equality of traces, edge by edge. -/
def tracesAgree : List TraceEdge → List TraceEdge → Bool
  | [], [] => true
  | a :: as, b :: bs => a.agrees b && tracesAgree as bs
  | _, _ => false

/-- Equality of legs, one by one. -/
def legsAgree : List (Leg Float) → List (Leg Float) → Bool
  | [], [] => true
  | a :: as, b :: bs => a.agrees b && legsAgree as bs
  | _, _ => false

/-- Legs in the order of travel, and when to leave. -/
structure Itinerary (V : Type) where
  legs : List (Leg V)
  start : DateTime
  trace : Option (List TraceEdge)
  deriving Repr, Inhabited

namespace Itinerary

variable {V : Type}

/-- An itinerary without legs. -/
def startingAt (start : DateTime) : Itinerary V := ⟨[], start, none⟩

/-- An itinerary without legs that starts with the year 1970. -/
def empty : Itinerary V := startingAt DateTime.epoch

def size (it : Itinerary V) : Nat := it.legs.length

/-- mirrors `add_step` -/
def add (it : Itinerary V) (leg : Leg V) : Itinerary V := { it with legs := it.legs ++ [leg] }

/-- A leg, counted from zero.
mirrors `step` -/
def leg (it : Itinerary V) (index : Nat) : Except Failure (Leg V) :=
  match it.legs[index]? with
  | some leg => .ok leg
  | none => .error (.outOfRange index it.size)

/-- mirrors `total_costs` -/
def totalCosts [CostValue V] (it : Itinerary V) : Costs V := Costs.total (it.legs.map (·.costs))

def mapLegs (it : Itinerary V) (f : Leg V → Leg V) : Itinerary V :=
  { it with legs := it.legs.map f }

def modifyLeg (it : Itinerary V) (index : Nat) (f : Leg V → Leg V) : Itinerary V :=
  { it with legs := it.legs.modify index f }

/-- Gives a leg a geometry, if there is such a leg. -/
def setGeometry (it : Itinerary V) (index : Nat) (geometry : List UInt8) : Itinerary V :=
  it.modifyLeg index fun leg => { leg with geometry := some geometry }

/-- Looks up a geometry for every leg that has none; `lookup` sees only those. Answers with the
geometries that were found, each with the number of its leg, `index` being that of the first. -/
def findGeometries {m : Type → Type} [Monad m] (lookup : Leg V → m (Option (List UInt8))) :
    Nat → List (Leg V) → m (List (Nat × List UInt8))
  | _, [] => return []
  | index, leg :: rest => do
    match leg.geometry with
    | some _ => findGeometries lookup (index + 1) rest
    | none =>
      match ← lookup leg with
      | none => findGeometries lookup (index + 1) rest
      | some geometry =>
        let found ← findGeometries lookup (index + 1) rest
        return (index, geometry) :: found

/-- Looks up the geometries that are missing, and once all lookups are made, writes those that were
found and counts them. A lookup that fails leaves nothing changed.
mirrors `fill_geometries` -/
def fillGeometries {m : Type → Type} [Monad m] (lookup : Leg V → m (Option (List UInt8)))
    (it : Itinerary V) : m (Itinerary V × Nat) := do
  let found ← findGeometries lookup 0 it.legs
  return (found.foldl (fun it (index, geometry) => it.setGeometry index geometry) it, found.length)

/-- Equality, with numbers compared as numbers: an itinerary that holds not-a-number differs from
itself. -/
def agrees (a b : Itinerary Float) : Bool :=
  legsAgree a.legs b.legs && a.start == b.start &&
    match a.trace, b.trace with
    | none, none => true
    | some s, some t => tracesAgree s t
    | _, _ => false

end Itinerary

end Multimodal
