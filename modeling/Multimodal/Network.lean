import Multimodal.Road
import Multimodal.Transit

/-!
# The network of all means of transport

One road network, any number of public transport networks in a fixed order, the indexes by which
road records are found, and the account of the import that built it.
-/
namespace Multimodal

/-- What an import left out. -/
structure ImportStats where
  skippedNodes : Nat := 0
  skippedSections : Nat := 0
  skippedStops : Nat := 0
  skippedConnections : Nat := 0
  unresolvedParents : Nat := 0
  deriving DecidableEq, Repr, Inhabited

namespace ImportStats

/-- mirrors `skipped` -/
def skipped (stats : ImportStats) : RecordKind → Nat
  | .roadNode => stats.skippedNodes
  | .roadSection => stats.skippedSections
  | .stop => stats.skippedStops
  | .transitSection => stats.skippedConnections

/-- mirrors `total_skipped` -/
def totalSkipped (stats : ImportStats) : Nat :=
  stats.skippedNodes + stats.skippedSections + stats.skippedStops + stats.skippedConnections

end ImportStats

/-- Everything that can be travelled. -/
structure Network where
  road : RoadNetwork := {}
  nodeIndex : IdIndex := IdIndex.empty .roadNode
  sectionIndex : IdIndex := IdIndex.empty .roadSection
  transit : Array TransitNetwork := #[]
  stats : ImportStats := {}

/-- A place in the whole network: a road node, or a stop of one of the public transport networks.
Places are stored with itineraries, so their numbers have a fixed width. -/
inductive Vertex where
  | road (node : UInt32)
  | transit (network : UInt64) (stop : UInt32)
  deriving DecidableEq, Repr, Inhabited

/-- A way between two places. -/
structure Edge where
  source : Vertex
  target : Vertex
  deriving DecidableEq, Repr, Inhabited

namespace Network

def empty : Network := {}

/-- mirrors `road_node` -/
def node? (n : Network) (id : RecordId) : Option (Handle × RoadNode) := do
  let handle ← n.nodeIndex.get? id
  let node ← n.road.vertex? handle
  return (handle, node)

/-- mirrors `road_section` -/
def section? (n : Network) (id : RecordId) : Option (Handle × RoadSection) := do
  let handle ← n.sectionIndex.get? id
  let arc ← n.road.arc? handle
  return (handle, arc.label)

/-- mirrors `stop` -/
def stop? (n : Network) (network : Nat) (id : RecordId) : Option (Handle × Stop) := do
  let transit ← n.transit[network]?
  let handle ← transit.find? id
  let stop ← transit.stop? handle
  return (handle, stop)

/-- The stop at a place, if it is one. -/
def stopAt? (n : Network) (network : Nat) (stop : Handle) : Option Stop := do
  let transit ← n.transit[network]?
  transit.stop? stop

/-- The id of the record at a place.
mirrors `vertex_db_id` -/
def vertexId? (n : Network) : Vertex → Option RecordId
  | .road node => (n.road.vertex? node.toNat).map (·.id)
  | .transit network stop => (n.stopAt? network.toNat stop.toNat).map (·.id)

/-- The name of a place. Road nodes have none.
mirrors `vertex_name` -/
def vertexName? (n : Network) : Vertex → Option String
  | .road _ => none
  | .transit network stop => (n.stopAt? network.toNat stop.toNat).map (·.name)

/-- Appends a public transport network and answers with its place in the order.
mirrors `push_public_transport` -/
def push (n : Network) (transit : TransitNetwork) : Network × Nat :=
  ({ n with transit := n.transit.push transit }, n.transit.size)

/-- One public transport network in the summary. -/
def transitSummary (t : TransitNetwork) : String :=
  t.name ++ " (" ++ toString t.stopCount ++ " stops, " ++ toString t.connectionCount ++ " sections)"

/-- What the network holds, in one line.
mirrors `summary` -/
def summary (n : Network) : String :=
  "road network with " ++ toString n.road.order ++ " nodes and " ++ toString n.road.size
    ++ " sections; " ++ toString n.transit.size ++ " public transport networks: ["
    ++ String.intercalate ", " (n.transit.toList.map transitSummary) ++ "]"

end Network

end Multimodal
