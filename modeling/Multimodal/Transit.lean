import Multimodal.Digraph

/-!
# Public transport networks

The stops of one operator and the connections between them. Stops are placed on road sections, and a
stop may belong to a station, which is a stop of the same network.
-/
namespace Multimodal

/-- A stop, placed on a road section at a fraction of its length. -/
structure Stop where
  id : RecordId
  name : String
  isStation : Bool
  parent : Option Handle
  roadSection : Handle
  zone : String
  abscissa : Float
  deriving DecidableEq, Repr, Inhabited

/-- Whether the stop belongs to a station. -/
def Stop.hasParent (s : Stop) : Bool := s.parent.isSome

/-- The network of one operator. Its stops are found by id and by handle. -/
structure TransitNetwork where
  id : RecordId
  name : String
  graph : Digraph Stop Unit := {}
  stopIndex : IdIndex := IdIndex.empty .stop

namespace TransitNetwork

def empty (id : RecordId) (name : String) : TransitNetwork := { id, name }

/-- mirrors `stop_by_db_id` -/
def find? (n : TransitNetwork) (id : RecordId) : Option Handle := n.stopIndex.get? id

def stop? (n : TransitNetwork) (handle : Handle) : Option Stop := n.graph.vertex? handle

def stopCount (n : TransitNetwork) : Nat := n.graph.order

def connectionCount (n : TransitNetwork) : Nat := n.graph.size

/-- Adds a stop whose id is new.
mirrors `add_stop` -/
def addStop (n : TransitNetwork) (stop : Stop) : Except Failure (TransitNetwork × Handle) := do
  if n.stopIndex.contains stop.id then .error (.duplicateId .stop stop.id)
  else
    let (graph, handle) := n.graph.addVertex stop
    let stopIndex ← n.stopIndex.register stop.id handle
    return ({ n with graph, stopIndex }, handle)

/-- Adds a connection between existing stops.
mirrors `add_section` -/
def connect (n : TransitNetwork) (source target : Handle) :
    Except Failure (TransitNetwork × Handle) := do
  let (graph, handle) ← n.graph.addArc source target ()
  return ({ n with graph }, handle)

/-- Makes one stop the station of another. Both must exist and differ.
mirrors `set_parent_station` -/
def setParent (n : TransitNetwork) (stop parent : Handle) : Except Failure TransitNetwork :=
  if stop ≠ parent ∧ parent < n.stopCount ∧ stop < n.stopCount then
    .ok { n with graph := n.graph.mapVertex stop fun s => { s with parent := some parent } }
  else .error .invalidHandle

/-- The station of the stop with a handle.
mirrors `parent_station` -/
def parentOf? (n : TransitNetwork) (handle : Handle) : Option Stop := do
  let stop ← n.stop? handle
  let parent ← stop.parent
  n.stop? parent

end TransitNetwork

end Multimodal
