import Multimodal.Digraph

/-!
# The road network

Junctions of roads and the sections between them. A section is stored once and can be travelled in
both directions; which means of transport may do so is said for each direction by a set of modes.
-/
namespace Multimodal

/-- The classes of roads. -/
inductive RoadType where
  | motorway
  | primaryRoad
  | secondaryRoad
  | street
  | other
  | cycleWay
  | pedestrianOnly
  deriving DecidableEq, Repr

namespace RoadType

/-- Every class, in the order of the codes. -/
def all : List RoadType :=
  [.motorway, .primaryRoad, .secondaryRoad, .street, .other, .cycleWay, .pedestrianOnly]

def code : RoadType → Int
  | .motorway => 1
  | .primaryRoad => 2
  | .secondaryRoad => 3
  | .street => 4
  | .other => 5
  | .cycleWay => 6
  | .pedestrianOnly => 7

/-- mirrors `from_code` -/
def ofCode? (code : Int) : Option RoadType := all.find? (·.code == code)

def name : RoadType → String
  | .motorway => "Motorway"
  | .primaryRoad => "PrimaryRoad"
  | .secondaryRoad => "SecondaryRoad"
  | .street => "Street"
  | .other => "Other"
  | .cycleWay => "CycleWay"
  | .pedestrianOnly => "PedestrianOnly"

end RoadType

/-- A set of means of transport, one bit for each. -/
structure Modes where
  bits : UInt32
  deriving DecidableEq, Repr, Inhabited

namespace Modes

def none : Modes := ⟨0⟩
def car : Modes := ⟨1⟩
def pedestrian : Modes := ⟨2⟩
def cycle : Modes := ⟨4⟩
def bus : Modes := ⟨8⟩
def tramway : Modes := ⟨16⟩
def metro : Modes := ⟨32⟩
def train : Modes := ⟨64⟩
def shuttle : Modes := ⟨128⟩
def boat : Modes := ⟨256⟩
def taxi : Modes := ⟨512⟩
def carPool : Modes := ⟨1024⟩
def bicycleSharing : Modes := ⟨2048⟩

/-- The empty set and every set of one mode, in the order of the bits. -/
def named : List Modes :=
  [none, car, pedestrian, cycle, bus, tramway, metro, train, shuttle, boat, taxi, carPool,
    bicycleSharing]

/-- The modes in either set. -/
def union (a b : Modes) : Modes := ⟨a.bits ||| b.bits⟩

/-- Whether every mode of `b` is in `a`. -/
def contains (a b : Modes) : Bool := a.bits &&& b.bits == b.bits

def isEmpty (a : Modes) : Bool := a.bits == 0

end Modes

/-- Whether a double is a length: finite and not negative. Minus zero is one. -/
def isLength (x : Float) : Bool := x.isFinite && decide (0.0 ≤ x)

/-- A junction or an end of roads. -/
structure RoadNode where
  id : RecordId
  isJunction : Bool
  isBifurcation : Bool
  deriving DecidableEq, Repr, Inhabited

/-- A piece of road between two nodes. -/
structure RoadSection where
  id : RecordId
  roadType : Option RoadType
  forwardModes : Modes
  backwardModes : Modes
  length : Float
  carSpeedLimit : Float
  carAverageSpeed : Float
  transitAverageSpeed : Float
  roadName : String
  leftAddresses : String
  rightAddresses : String
  lanes : Int32
  isRoundabout : Bool
  isBridge : Bool
  isTunnel : Bool
  isRamp : Bool
  isTollway : Bool
  deriving DecidableEq, Repr

/-- Whether the modes may use the section from its start to its end.
mirrors `allows_forward` -/
def RoadSection.allowsForward (s : RoadSection) (modes : Modes) : Bool :=
  s.forwardModes.contains modes

/-- Whether the modes may use the section from its end to its start.
mirrors `allows_backward` -/
def RoadSection.allowsBackward (s : RoadSection) (modes : Modes) : Bool :=
  s.backwardModes.contains modes

/-- The roads of an area. -/
abbrev RoadNetwork := Digraph RoadNode RoadSection

end Multimodal
