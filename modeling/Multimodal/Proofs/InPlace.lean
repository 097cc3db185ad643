import Multimodal.Import.Run

/-!
# Importing in place

An import answers with new networks and indexes, so a row that fails has no effect by the way it is
written. Here the same import works on its graphs and indexes in place: a vertex stands in the graph
before its id is registered, every call may fail, and what a failing row has changed by then stays
changed. The moments at which something could go wrong are written down as they come (`Moment`).

* `Watched`: a report together with the moments on the way.
* `passInPlace`: a pass over rows, each of them a program that changes the state in place.
* `importInPlace`: the whole import.
-/
namespace Multimodal

/-- What happens on the way of an import. -/
inductive Moment where
  /-- A section is about to be added to the roads, between two handles. -/
  | joins (roads : RoadNetwork) (source target : Handle)
  /-- A connection is about to be added to a network, between two handles. -/
  | connects (n : TransitNetwork) (source target : Handle)
  /-- An id is about to be registered. -/
  | registers (index : IdIndex) (id : RecordId)
  /-- A stop is about to be given the station that it claims, which has been found. -/
  | links (n : TransitNetwork) (claim : StationClaim) (station : Handle)
  /-- A row has failed. -/
  | fails (failure : Failure)
  /-- A row has been dealt with, and this is what there is. -/
  | pauses (n : Network)

/-! ## Programs in place -/

/-- What a program works on: a state, and the moments so far. -/
structure Site (σ : Type) where
  state : σ
  seen : List Moment := []

/-- A program that changes a state in place. When it fails, its changes stay. -/
abbrev InPlace (σ : Type) := EStateM Failure (Site σ)

namespace InPlace

variable {σ α : Type}

def state : InPlace σ σ := return (← get).state

def change (f : σ → σ) : InPlace σ Unit := modify fun site => { site with state := f site.state }

/-- Writes down a moment. -/
def observe (moment : Moment) : InPlace σ Unit :=
  modify fun site => { site with seen := site.seen ++ [moment] }

/-- The value of a call, or its failure. -/
def ofExcept : Except Failure α → InPlace σ α
  | .ok a => return a
  | .error failure => throw failure

def call (moment : Moment) (outcome : Except Failure α) : InPlace σ α := do
  observe moment
  ofExcept outcome

/-- Registers an id in an index.
mirrors `register` -/
def register (index : IdIndex) (id : RecordId) (handle : Handle) : InPlace σ IdIndex :=
  call (.registers index id) (index.register id handle)

/-! ### Rows -/

/-- mirrors `add_road_node` -/
def addNode (row : NodeRow) : InPlace Network Unit := do
  if (← state).nodeIndex.contains row.id then throw (.duplicateId .roadNode row.id)
  let handle := (← state).road.order
  change fun n => { n with road := (n.road.addVertex row.node).1 }
  let nodeIndex ← register (← state).nodeIndex row.id handle
  change fun n => { n with nodeIndex }

/-- mirrors `add_road_section` -/
def addSection (position : Nat) (row : SectionRow) : InPlace Network Unit := do
  let n ← state
  let source ← ofExcept
    (n.nodeIndex.follow .roadSection position (some row.id) "node_from" row.nodeFrom)
  let target ← ofExcept
    (n.nodeIndex.follow .roadSection position (some row.id) "node_to" row.nodeTo)
  if n.sectionIndex.contains row.id then throw (.duplicateId .roadSection row.id)
  let label ← ofExcept (row.roadSection?.mapError (.malformedRecord .roadSection position))
  let (road, handle) ← call (.joins n.road source target) (n.road.addArc source target label)
  change fun n => { n with road }
  let sectionIndex ← register (← state).sectionIndex row.id handle
  change fun n => { n with sectionIndex }

/-- The stop in the network itself.
mirrors `add_stop` -/
def enter (stop : Stop) : InPlace StopIntake Handle := do
  if (← state).network.stopIndex.contains stop.id then throw (.duplicateId .stop stop.id)
  let handle := (← state).network.stopCount
  change fun s => { s with network.graph := (s.network.graph.addVertex stop).1 }
  let stopIndex ← register (← state).network.stopIndex stop.id handle
  change fun s => { s with network.stopIndex := stopIndex }
  return handle

/-- mirrors `add_stop` -/
def addStop (sections : IdIndex) (position : Nat) (row : StopRow) : InPlace StopIntake Handle := do
  if ((← state).network.find? row.id).isSome then throw (.duplicateId .stop row.id)
  if !row.isPlaced then
    throw (.malformedRecord .stop position (.abscissaOutside row.id row.abscissa))
  let roadSection ← ofExcept
    (sections.follow .stop position (some row.id) "road_section_id" row.roadSection)
  enter (row.stop roadSection)

/-- Counts a claim that came to nothing. -/
def leave (claim : StationClaim) : InPlace StopIntake (List Note) := do
  change fun s => { s with unresolved := s.unresolved + 1 }
  return [.stationUnresolved claim.stop (← state).network.name claim.station]

/-- mirrors `link_parent` -/
def link (claim : StationClaim) : InPlace StopIntake (List Note) := do
  let n := (← state).network
  match n.find? claim.station with
  | none => leave claim
  | some station =>
    observe (.links n claim station)
    match n.setParent claim.handle station with
    | .error _ => leave claim
    | .ok network =>
      change fun s => { s with network }
      return []

def linkAll : List StationClaim → InPlace StopIntake (List Note)
  | [] => return []
  | claim :: rest => do
    let notes ← link claim
    let more ← linkAll rest
    return notes ++ more

/-- Adds the stop of a row. Its claim is followed at once or kept for later. -/
def offerStop (linking : StationLinking) (sections : IdIndex) (position : Nat) (row : StopRow) :
    InPlace StopIntake (List Note) := do
  let handle ← addStop sections position row
  match row.parentId with
  | none => return []
  | some station =>
    let claim := ⟨handle, row.id, station⟩
    match linking with
    | .singlePass => link claim
    | .twoPass =>
      change fun s => { s with pending := claim :: s.pending }
      return []

def settle : InPlace StopIntake (List Note) := do
  let claims := (← state).pending.reverse
  change fun s => { s with pending := [] }
  linkAll claims

/-- mirrors `add_pt_section` -/
def addConnection (position : Nat) (row : ConnectionRow) : InPlace TransitNetwork Unit := do
  let n ← state
  let source ← ofExcept
    (n.stopIndex.follow .transitSection position none "stop_from" row.stopFrom)
  let target ← ofExcept (n.stopIndex.follow .transitSection position none "stop_to" row.stopTo)
  let (next, _) ← call (.connects n source target) (n.connect source target)
  change fun _ => next

end InPlace

/-! ## Reports with the moments on the way -/

/-- A report and the moments that led to it. -/
structure Watched (α : Type) where
  moments : List Moment
  report : Report α

namespace Watched

variable {α β σ : Type}

/-- Goes on after a value; a failure ends the moments as well. -/
def bind (w : Watched α) (next : α → Watched β) : Watched β where
  moments :=
    match w.report.outcome with
    | .ok a => w.moments ++ (next a).moments
    | .error _ => w.moments
  report := w.report.bind fun a => (next a).report

instance : Monad Watched where
  pure a := ⟨[], pure a⟩
  bind := bind

/-- A report without moments. -/
def ofReport (report : Report α) : Watched α := ⟨[], report⟩

/-- Moments without a report. -/
def observe (moments : List Moment) : Watched Unit := ⟨moments, pure ()⟩

def run (program : InPlace σ α) (state : σ) : Watched (σ × α) :=
  match program.run ⟨state, []⟩ with
  | .ok a site => ⟨site.seen, pure (site.state, a)⟩
  | .error failure site => ⟨site.seen, Report.fail failure⟩

end Watched

/-! ## Passes -/

variable {ρ σ : Type}

/-- Offers rows one after another to a program that changes a state in place. After every row, also
one that failed, `view` shows what there is.
mirrors `reject_row` -/
def passInPlace (policy : RowPolicy) (kind : RecordKind) (tick : Nat → Event) (view : σ → Network)
    (program : Nat → ρ → InPlace σ (List Note)) : Nat → List ρ → σ → Watched (σ × Nat)
  | _, [], state => return (state, 0)
  | position, row :: rest, state =>
    match (program position row).run ⟨state, []⟩ with
    | .ok notes site => do
      Watched.observe (site.seen ++ [.pauses (view site.state)])
      Watched.ofReport (Report.announce (notes.map .note ++ [tick position]))
      passInPlace policy kind tick view program (position + 1) rest site.state
    | .error failure site => do
      Watched.observe (site.seen ++ [.fails failure, .pauses (view site.state)])
      match policy with
      | .fail => Watched.ofReport (Report.fail failure)
      | .skip => do
        Watched.ofReport (Report.announce [.note (.rowSkipped kind failure), tick position])
        let (state, skipped) ←
          passInPlace policy kind tick view program (position + 1) rest site.state
        return (state, skipped + 1)

namespace InPlace

def offerNode (row : NodeRow) : InPlace Network (List Note) := do
  addNode row
  return []

def offerSection (position : Nat) (row : SectionRow) : InPlace Network (List Note) := do
  addSection position row
  return [.sectionAdded row.id row.nodeFrom row.nodeTo]

def offerConnection (position : Nat) (row : ConnectionRow) :
    InPlace TransitNetwork (List Note) := do
  addConnection position row
  return []

end InPlace

/-- The roads together with public transport networks. -/
def Network.withTransit (roads : Network) (transit : List TransitNetwork) : Network :=
  { roads with transit := transit.toArray }

/-- A public transport network before its first row. -/
def TransitRows.start (rows : TransitRows) : TransitNetwork :=
  TransitNetwork.empty rows.networkId rows.name

/-- Imports the stops of one network; `view` shows what there is besides.
mirrors `import_stops` -/
def importStopsInPlace (options : ImportOptions) (sections : IdIndex)
    (view : TransitNetwork → Network) (done total : Nat) (rows : TransitRows) :
    Watched StopYield := do
  let (intake, skipped) ←
    passInPlace options.onRowError .stop (fun position => .row .stop (done + position) total)
      (fun s => view s.network) (InPlace.offerStop options.stationLinking sections) 0 rows.stops
      { network := rows.start }
  let (intake, notes) ← Watched.run InPlace.settle intake
  Watched.observe [.pauses (view intake.network)]
  Watched.ofReport (Report.log notes)
  return ⟨intake.network, rows.connections, skipped, intake.unresolved⟩

/-- Imports the connections of one network; `view` shows what there is besides.
mirrors `import_pt_sections` -/
def importConnectionsInPlace (policy : RowPolicy) (view : TransitNetwork → Network)
    (done total : Nat) (stops : StopYield) : Watched (TransitNetwork × Nat) :=
  passInPlace policy .transitSection (fun position => .row .transitSection (done + position) total)
    view InPlace.offerConnection 0 stops.connections stops.network

/-- Runs a phase over public transport networks in turn, counting through the rows that they have.
Those before are `finished`, and those behind are there as they were `before`. -/
def networksInPlace {β γ : Type} (roads : Network) (size : β → Nat) (before : β → TransitNetwork)
    (after : γ → TransitNetwork) (one : (TransitNetwork → Network) → Nat → β → Watched γ) :
    Nat → List TransitNetwork → List β → Watched (List γ)
  | _, _, [] => return []
  | done, finished, item :: rest => do
    let first ← one (fun t => roads.withTransit (finished ++ t :: rest.map before)) done item
    let others ← networksInPlace roads size before after one (done + size item)
      (finished ++ [after first]) rest
    return first :: others

/-- Imports a network from its rows, in place.
mirrors `import_graph` -/
def importInPlace (source : RowSource) (options : ImportOptions) : Watched Network := do
  Watched.observe [.pauses Network.empty]
  let nodes ← Watched.ofReport (Report.ofExcept source.nodes)
  Watched.ofReport (Report.log [.importingNodes nodes.length])
  let (network, skippedNodes) ←
    passInPlace options.onRowError .roadNode (.row .roadNode · nodes.length) (·.withTransit [])
      (fun _ row => InPlace.offerNode row) 0 nodes Network.empty
  let sections ← Watched.ofReport (Report.ofExcept source.sections)
  Watched.ofReport (Report.log [.importingSections sections.length])
  let (network, skippedSections) ←
    passInPlace options.onRowError .roadSection (.row .roadSection · sections.length)
      (·.withTransit []) InPlace.offerSection 0 sections network
  let networks ← Watched.ofReport (Report.ofExcept source.networks)
  let stopTotal := totalOf (·.stops.length) networks
  Watched.observe [.pauses (network.withTransit (networks.map TransitRows.start))]
  Watched.ofReport (Report.log [.importingStops stopTotal networks.length])
  let yields ← networksInPlace network (·.stops.length) TransitRows.start (·.network)
    (fun view done => importStopsInPlace options network.sectionIndex view done stopTotal)
    0 [] networks
  let connectionTotal := totalOf (·.connections.length) networks
  Watched.ofReport (Report.log [.importingConnections connectionTotal])
  let transit ← networksInPlace network (·.connections.length) (·.network) (·.1)
    (fun view done => importConnectionsInPlace options.onRowError view done connectionTotal)
    0 [] yields
  let stats : ImportStats := {
    skippedNodes
    skippedSections
    skippedStops := totalOf (·.skipped) yields
    skippedConnections := totalOf (·.2) transit
    unresolvedParents := totalOf (·.unresolved) yields }
  let network := { network with transit := (transit.map (·.1)).toArray, stats }
  Watched.observe [.pauses network]
  Watched.ofReport (Report.announce [.finished])
  if 0 < stats.totalSkipped then
    Watched.ofReport (Report.log [.rowsSkipped stats.totalSkipped])
  Watched.ofReport (Report.log [.imported network.summary])
  return network

end Multimodal
