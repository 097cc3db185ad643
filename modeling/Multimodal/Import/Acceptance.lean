import Multimodal.Import.Event
import Multimodal.Import.Options
import Multimodal.Records

/-!
# Accepting a row

A row becomes part of the network when its id is new, its references lead to records that are there
already, and its values make sense. The checks are made in a fixed order and the first that fails is
the row's failure; nothing is added then.
-/
namespace Multimodal

/-- The handle a field of a row refers to. `position` and `recordId` say which row it is.
mirrors `resolve_reference` -/
def IdIndex.follow (index : IdIndex) (kind : RecordKind) (position : Nat)
    (recordId : Option RecordId) (field : String) (id : RecordId) : Except Failure Handle :=
  match index.get? id with
  | some handle => .ok handle
  | none => .error (.danglingReference kind position recordId field index.kind id)

/-! ## Roads -/

def NodeRow.node (row : NodeRow) : RoadNode := ⟨row.id, row.isJunction, row.isBifurcation⟩

/-- The class of roads of a section row, if its code is one.
mirrors `from_code` -/
def SectionRow.class? (row : SectionRow) : Except RowFault (Option RoadType) :=
  match row.roadType with
  | none => .ok none
  | some code =>
    match RoadType.ofCode? code.toInt with
    | some t => .ok (some t)
    | none => .error (.unknownRoadType row.id code)

/-- The section a row stores, if its class and length make sense. -/
def SectionRow.roadSection? (row : SectionRow) : Except RowFault RoadSection := do
  let roadType ← row.class?
  if isLength row.length then
    return {
      id := row.id
      roadType
      forwardModes := ⟨row.forwardModes⟩
      backwardModes := ⟨row.backwardModes⟩
      length := row.length
      carSpeedLimit := row.carSpeedLimit
      carAverageSpeed := row.carAverageSpeed
      transitAverageSpeed := row.transitAverageSpeed
      roadName := row.roadName
      leftAddresses := row.leftAddresses
      rightAddresses := row.rightAddresses
      lanes := row.lanes
      isRoundabout := row.isRoundabout
      isBridge := row.isBridge
      isTunnel := row.isTunnel
      isRamp := row.isRamp
      isTollway := row.isTollway }
  else throw (.invalidLength row.id row.length)

namespace Network

/-- Adds the node of a row.
mirrors `add_road_node` -/
def acceptNode (n : Network) (row : NodeRow) : Except Failure Network :=
  if n.nodeIndex.contains row.id then .error (.duplicateId .roadNode row.id)
  else do
    let (road, handle) := n.road.addVertex row.node
    let nodeIndex ← n.nodeIndex.register row.id handle
    return { n with road, nodeIndex }

/-- Adds the section of a row.
mirrors `add_road_section` -/
def acceptSection (n : Network) (position : Nat) (row : SectionRow) : Except Failure Network := do
  let source ←
    n.nodeIndex.follow .roadSection position (some row.id) "node_from" row.nodeFrom
  let target ←
    n.nodeIndex.follow .roadSection position (some row.id) "node_to" row.nodeTo
  if n.sectionIndex.contains row.id then throw (.duplicateId .roadSection row.id)
  let label ← row.roadSection?.mapError (.malformedRecord .roadSection position)
  let (road, handle) ← n.road.addArc source target label
  let sectionIndex ← n.sectionIndex.register row.id handle
  return { n with road, sectionIndex }

end Network

/-! ## Public transport -/

/-- Whether a stop row lies on its section: between its start, zero, and its end, one. -/
def StopRow.isPlaced (row : StopRow) : Bool :=
  decide (0.0 ≤ row.abscissa) && decide (row.abscissa ≤ 1.0)

/-- The stop a row stores, on the section with a handle and without a station. -/
def StopRow.stop (row : StopRow) (roadSection : Handle) : Stop where
  id := row.id
  name := row.name
  isStation := row.isStation
  parent := none
  roadSection
  zone := row.zone
  abscissa := row.abscissa

namespace TransitNetwork

/-- Adds the stop of a row, placed on one of the sections of `sections`.
mirrors `add_stop` -/
def acceptStop (n : TransitNetwork) (sections : IdIndex) (position : Nat) (row : StopRow) :
    Except Failure (TransitNetwork × Handle) := do
  if (n.find? row.id).isSome then throw (.duplicateId .stop row.id)
  if !row.isPlaced then
    throw (.malformedRecord .stop position (.abscissaOutside row.id row.abscissa))
  let roadSection ← sections.follow .stop position (some row.id) "road_section_id" row.roadSection
  n.addStop (row.stop roadSection)

/-- Adds the connection of a row.
mirrors `add_pt_section` -/
def acceptConnection (n : TransitNetwork) (position : Nat) (row : ConnectionRow) :
    Except Failure TransitNetwork := do
  let source ← n.stopIndex.follow .transitSection position none "stop_from" row.stopFrom
  let target ← n.stopIndex.follow .transitSection position none "stop_to" row.stopTo
  let (n, _) ← n.connect source target
  return n

end TransitNetwork

/-- What a stop says about its station. -/
structure StationClaim where
  handle : Handle
  stop : RecordId
  station : RecordId
  deriving DecidableEq, Repr

/-- A public transport network while its stops arrive: the claims not looked at yet, the latest
first, and the number of those that came to nothing. -/
structure StopIntake where
  network : TransitNetwork
  pending : List StationClaim := []
  unresolved : Nat := 0

namespace StopIntake

/-- Follows a claim. A stop whose station is not there, or is the stop itself, stays without.
mirrors `link_parent` -/
def link (s : StopIntake) (claim : StationClaim) : StopIntake × List Note :=
  let linked := do
    let station ← s.network.find? claim.station
    (s.network.setParent claim.handle station).toOption
  match linked with
  | some network => ({ s with network }, [])
  | none =>
    ({ s with unresolved := s.unresolved + 1 },
      [.stationUnresolved claim.stop s.network.name claim.station])

/-- Follows claims one after another. -/
def linkAll (s : StopIntake) : List StationClaim → StopIntake × List Note
  | [] => (s, [])
  | claim :: rest =>
    let (s, notes) := s.link claim
    let (s, more) := s.linkAll rest
    (s, notes ++ more)

/-- Adds the stop of a row. Its claim is followed at once or kept for later. -/
def accept (linking : StationLinking) (sections : IdIndex) (position : Nat) (row : StopRow)
    (s : StopIntake) : Except Failure (StopIntake × List Note) := do
  let (network, handle) ← s.network.acceptStop sections position row
  let s := { s with network }
  match row.parentId with
  | none => return (s, [])
  | some station =>
    let claim := ⟨handle, row.id, station⟩
    match linking with
    | .singlePass => return s.link claim
    | .twoPass => return ({ s with pending := claim :: s.pending }, [])

/-- Follows the claims that were kept, in the order of their stops. -/
def settle (s : StopIntake) : StopIntake × List Note :=
  { s with pending := [] }.linkAll s.pending.reverse

end StopIntake

end Multimodal
