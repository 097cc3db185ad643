import Multimodal.Import.Acceptance
import Multimodal.Import.Report

/-!
# Importing a network

Rows are imported in four phases: road nodes, road sections, the stops of all public transport
networks, and their connections. A stream is asked for when its phase begins, so a missing stream is
found only after the phases before it. Every phase is the same pass over rows, with the policy
deciding what a refused row does to the whole.
-/
namespace Multimodal

variable {ρ σ : Type}

/-- Offers rows one after another to a state, `position` being the number of the first. A row is
either accepted, with notes about what it did, or refused. Answers with the last state and the
number of rows that were skipped.
mirrors `reject_row` -/
def pass (policy : RowPolicy) (kind : RecordKind) (tick : Nat → Event)
    (accept : Nat → ρ → σ → Except Failure (σ × List Note)) : Nat → List ρ → σ → Report (σ × Nat)
  | _, [], state => return (state, 0)
  | position, row :: rest, state =>
    match accept position row state with
    | .ok (state, notes) => do
      Report.announce (notes.map .note ++ [tick position])
      pass policy kind tick accept (position + 1) rest state
    | .error failure =>
      match policy with
      | .fail => Report.fail failure
      | .skip => do
        Report.announce [.note (.rowSkipped kind failure), tick position]
        let (state, skipped) ← pass policy kind tick accept (position + 1) rest state
        return (state, skipped + 1)

/-- mirrors `import_road_nodes` -/
def importNodes (policy : RowPolicy) (rows : List NodeRow) (n : Network) :
    Report (Network × Nat) :=
  pass policy .roadNode (.row .roadNode · rows.length)
    (fun _ row n => return (← n.acceptNode row, [])) 0 rows n

/-- mirrors `import_road_sections` -/
def importSections (policy : RowPolicy) (rows : List SectionRow) (n : Network) :
    Report (Network × Nat) :=
  pass policy .roadSection (.row .roadSection · rows.length)
    (fun position row n =>
      return (← n.acceptSection position row, [.sectionAdded row.id row.nodeFrom row.nodeTo]))
    0 rows n

/-- What the import of a public transport network's stops gave. -/
structure StopYield where
  network : TransitNetwork
  connections : List ConnectionRow
  skipped : Nat
  unresolved : Nat

/-- Imports the stops of one network. Its rows follow `done` others among `total`.
mirrors `import_stops` -/
def importStops (options : ImportOptions) (sections : IdIndex) (done total : Nat)
    (rows : TransitRows) : Report StopYield := do
  let (intake, skipped) ←
    pass options.onRowError .stop (fun position => .row .stop (done + position) total)
      (StopIntake.accept options.stationLinking sections) 0 rows.stops
      { network := TransitNetwork.empty rows.networkId rows.name }
  let (intake, notes) := intake.settle
  Report.log notes
  return ⟨intake.network, rows.connections, skipped, intake.unresolved⟩

/-- Imports the stops of networks in their order. -/
def importAllStops (options : ImportOptions) (sections : IdIndex) (total : Nat) :
    Nat → List TransitRows → Report (List StopYield)
  | _, [] => return []
  | done, rows :: rest => do
    let first ← importStops options sections done total rows
    let others ← importAllStops options sections total (done + rows.stops.length) rest
    return first :: others

/-- Imports the connections of one network. Its rows follow `done` others among `total`.
mirrors `import_pt_sections` -/
def importConnections (policy : RowPolicy) (done total : Nat) (stops : StopYield) :
    Report (TransitNetwork × Nat) :=
  pass policy .transitSection (fun position => .row .transitSection (done + position) total)
    (fun position row n => return (← n.acceptConnection position row, [])) 0 stops.connections
    stops.network

/-- Imports the connections of networks in their order. -/
def importAllConnections (policy : RowPolicy) (total : Nat) :
    Nat → List StopYield → Report (List (TransitNetwork × Nat))
  | _, [] => return []
  | done, stops :: rest => do
    let first ← importConnections policy done total stops
    let others ← importAllConnections policy total (done + stops.connections.length) rest
    return first :: others

/-- A count added up over a list. -/
def totalOf {α : Type} (count : α → Nat) (items : List α) : Nat :=
  items.foldr (fun item sum => count item + sum) 0

/-- Imports a network from its rows.
mirrors `import_graph` -/
def importNetwork (source : RowSource) (options : ImportOptions) : Report Network := do
  let nodes ← Report.ofExcept source.nodes
  Report.log [.importingNodes nodes.length]
  let (network, skippedNodes) ← importNodes options.onRowError nodes Network.empty
  let sections ← Report.ofExcept source.sections
  Report.log [.importingSections sections.length]
  let (network, skippedSections) ← importSections options.onRowError sections network
  let networks ← Report.ofExcept source.networks
  let stopTotal := totalOf (·.stops.length) networks
  Report.log [.importingStops stopTotal networks.length]
  let yields ← importAllStops options network.sectionIndex stopTotal 0 networks
  let connectionTotal := totalOf (·.connections.length) networks
  Report.log [.importingConnections connectionTotal]
  let transit ← importAllConnections options.onRowError connectionTotal 0 yields
  let stats : ImportStats := {
    skippedNodes
    skippedSections
    skippedStops := totalOf (·.skipped) yields
    skippedConnections := totalOf (·.2) transit
    unresolvedParents := totalOf (·.unresolved) yields }
  let network := { network with transit := (transit.map (·.1)).toArray, stats }
  Report.announce [.finished]
  if 0 < stats.totalSkipped then Report.log [.rowsSkipped stats.totalSkipped]
  Report.log [.imported network.summary]
  return network

end Multimodal
