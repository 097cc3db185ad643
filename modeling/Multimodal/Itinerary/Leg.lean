import Multimodal.Itinerary.Costs
import Multimodal.Network

/-!
# Legs

A leg is a part of an itinerary that is travelled in one way: along a road section, in a vehicle of
public transport, or from one network to another. Whatever its kind, it has costs, a transport mode
and possibly a geometry in well-known binary form.
-/
namespace Multimodal

/-- A distance in kilometers. -/
structure Kilometers where
  value : Float
  valid : isLength value = true
  deriving DecidableEq, Repr

/-- The distance of a double. -/
def Kilometers.ofFloat (km : Float) : Except Failure Kilometers :=
  if valid : isLength km then .ok ⟨km, valid⟩ else .error (.invalidData (.distance km))

/-- How far a road leg follows its section. -/
inductive TraversedDistance where
  | km (distance : Kilometers)
  | untilSectionEnd
  deriving DecidableEq, Repr

namespace TraversedDistance

/-- The distance in kilometers, if it is known.
mirrors `as_km` -/
def km? : TraversedDistance → Option Float
  | .km distance => some distance.value
  | .untilSectionEnd => none

/-- Equality of distances as numbers. -/
def agrees : TraversedDistance → TraversedDistance → Bool
  | .km a, .km b => a.value == b.value
  | .untilSectionEnd, .untilSectionEnd => true
  | _, _ => false

end TraversedDistance

/-- What to do at the end of a road leg. -/
inductive Movement where
  | goAhead
  | turnLeft
  | turnRight
  | uTurn
  | roundaboutEnter
  | firstExit
  | secondExit
  | thirdExit
  | fourthExit
  | fifthExit
  | sixthExit
  | youAreArrived
  deriving DecidableEq, Repr

namespace Movement

/-- Every movement, in the order of the codes. -/
def all : List Movement :=
  [.goAhead, .turnLeft, .turnRight, .uTurn, .roundaboutEnter, .firstExit, .secondExit, .thirdExit,
    .fourthExit, .fifthExit, .sixthExit, .youAreArrived]

def code : Movement → Nat
  | .goAhead => 0
  | .turnLeft => 1
  | .turnRight => 2
  | .uTurn => 3
  | .roundaboutEnter => 4
  | .firstExit => 5
  | .secondExit => 6
  | .thirdExit => 7
  | .fourthExit => 8
  | .fifthExit => 9
  | .sixthExit => 10
  | .youAreArrived => 999

def ofCode? (code : Int) : Option Movement := all.find? fun m => (m.code : Int) == code

/-- The exit that a movement takes from a roundabout, counted from one.
mirrors `exit_number` -/
def exitNumber? (m : Movement) : Option Nat :=
  if 5 ≤ m.code ∧ m.code ≤ 10 then some (m.code - 4) else none

/-- The movement that takes an exit of a roundabout.
mirrors `roundabout_exit` -/
def ofExit? (n : Int) : Option Movement :=
  all.find? fun m => m.exitNumber?.any fun exit => (exit : Int) == n

def name : Movement → String
  | .goAhead => "go_ahead"
  | .turnLeft => "turn_left"
  | .turnRight => "turn_right"
  | .uTurn => "u_turn"
  | .roundaboutEnter => "roundabout_enter"
  | .firstExit => "first_exit"
  | .secondExit => "second_exit"
  | .thirdExit => "third_exit"
  | .fourthExit => "fourth_exit"
  | .fifthExit => "fifth_exit"
  | .sixthExit => "sixth_exit"
  | .youAreArrived => "you_are_arrived"

end Movement

/-- A leg along a road section. -/
structure RoadLeg where
  roadSection : RecordId
  roadName : String
  distance : TraversedDistance
  movement : Movement
  deriving DecidableEq, Repr

/-- A leg in a vehicle. Waiting and times of day are in minutes. -/
structure TransitLeg where
  networkId : RecordId
  wait : Float
  departureTime : Float
  arrivalTime : Float
  tripId : RecordId
  departureStop : RecordId
  departureName : String
  arrivalStop : RecordId
  arrivalName : String
  route : String
  deriving DecidableEq, Repr, Inhabited

/-- A leg between two networks. -/
structure TransferLeg where
  edge : Edge
  finalMode : RecordId
  initialName : String
  finalName : String
  deriving DecidableEq, Repr, Inhabited

/-- What kind of leg it is. -/
inductive LegKind where
  | road (leg : RoadLeg)
  | transit (leg : TransitLeg)
  | transfer (leg : TransferLeg)
  deriving DecidableEq, Repr

/-- The three kinds of legs. -/
inductive LegType where
  | road
  | transit
  | transfer
  deriving DecidableEq, Repr

def LegType.name : LegType → String
  | .road => "road"
  | .transit => "public_transport"
  | .transfer => "transfer"

def LegType.all : List LegType := [.road, .transit, .transfer]

namespace LegKind

def type : LegKind → LegType
  | .road _ => .road
  | .transit _ => .transit
  | .transfer _ => .transfer

/-- The id by which a geometry is looked up: that of the road section or the trip, or the mode
changed to. -/
def lookupId : LegKind → RecordId
  | .road leg => leg.roadSection
  | .transit leg => leg.tripId
  | .transfer leg => leg.finalMode

/-- Equality, with times and distances compared as numbers. -/
def agrees : LegKind → LegKind → Bool
  | .road a, .road b =>
    a.roadSection == b.roadSection && a.roadName == b.roadName && a.distance.agrees b.distance &&
      a.movement == b.movement
  | .transit a, .transit b =>
    a.networkId == b.networkId && a.wait == b.wait && a.departureTime == b.departureTime &&
      a.arrivalTime == b.arrivalTime && a.tripId == b.tripId &&
      a.departureStop == b.departureStop && a.departureName == b.departureName &&
      a.arrivalStop == b.arrivalStop && a.arrivalName == b.arrivalName && a.route == b.route
  | .transfer a, .transfer b => a == b
  | _, _ => false

end LegKind

/-- A part of an itinerary. -/
structure Leg (V : Type) where
  kind : LegKind
  costs : Costs V
  mode : RecordId
  geometry : Option (List UInt8)
  deriving DecidableEq, Repr

namespace Leg

variable {V : Type}

/-- A leg without costs and geometry. -/
def new (kind : LegKind) (mode : RecordId) : Leg V := ⟨kind, Costs.empty, mode, none⟩

def setCost (leg : Leg V) (c : Criterion) (v : V) : Leg V := { leg with costs := leg.costs.set c v }

/-- Equality, with numbers compared as numbers. -/
def agrees (a b : Leg Float) : Bool :=
  a.kind.agrees b.kind && a.costs.agrees b.costs && a.mode == b.mode && a.geometry == b.geometry

end Leg

end Multimodal
