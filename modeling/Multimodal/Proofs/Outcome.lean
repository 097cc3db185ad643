import Multimodal.Proofs.Roads
import Multimodal.Proofs.Stops

/-!
# What an import comes to

An import of rows held in memory is settled by its policy like a single pass: `MemoryRows.refusals`
are the failures of all refused rows, phase by phase, and `MemoryRows.imported` is the network that
the other rows make. Neither depends on the policy.

* `InTurn`: what the two loops over networks have in common.
* `outcome_importNetwork`: an import of any source settles the refusals of one phase after another,
  and asks for a stream only when its phase begins.
* `outcome_importNetwork_source`: an import of rows in memory ends as its policy settles its
  refusals.
-/
namespace Multimodal

/-! ## Refusals of the phases -/

def nodeRefusals (nodes : List NodeRow) : List Failure :=
  Network.offerNode.refusals 0 nodes Network.empty

def sectionRefusals (nodes : List NodeRow) (sections : List SectionRow) : List Failure :=
  Network.offerSection.refusals 0 sections (importedNodes nodes)

section
variable (linking : StationLinking) (index : IdIndex) (rows : TransitRows)

def stopRefusals : List Failure :=
  (StopIntake.offer linking index).refusals 0 rows.stops (emptyIntake rows)

def connectionRefusals : List Failure :=
  TransitNetwork.offerConnection.refusals 0 rows.connections
    (settledStops linking index rows).network

def stopYield : StopYield where
  network := (settledStops linking index rows).network
  connections := rows.connections
  skipped := (stopRefusals linking index rows).length
  unresolved := (settledStops linking index rows).unresolved

end

/-! ## Networks in turn -/

/-- A program runs another one over items in turn, and counts through the rows that they have. -/
structure InTurn {β γ : Type} (size : β → Nat) (one : Nat → β → Report γ)
    (all : Nat → List β → Report (List γ)) : Prop where
  nil : ∀ done, all done [] = pure []
  cons : ∀ done item rest, all done (item :: rest) = do
    let first ← one done item
    let others ← all (done + size item) rest
    return first :: others

/-- Items in turn settle their refusals like a single pass over all of them. -/
theorem InTurn.outcome {β γ : Type} {size : β → Nat} {one : Nat → β → Report γ}
    {all : Nat → List β → Report (List γ)} (inTurn : InTurn size one all) {policy : RowPolicy}
    {refusals : β → List Failure} {value : β → γ}
    (hone : ∀ done item,
      (one done item).outcome = policy.settle (refusals item) (value item))
    (done : Nat) (items : List β) :
    (all done items).outcome = policy.settle (items.flatMap refusals) (items.map value) := by
  induction items generalizing done with
  | nil => simp [inTurn.nil]
  | cons item rest ih =>
    simp only [inTurn.cons, Report.outcome_bind, hone, List.flatMap_cons, List.map_cons]
    apply settle_bind
    rw [ih]
    exact settle_bind_ok _ _ _ _ _ rfl

theorem inTurn_importAllStops (options : ImportOptions) (index : IdIndex) (total : Nat) :
    InTurn (·.stops.length) (fun done => importStops options index done total)
      (importAllStops options index total) :=
  ⟨fun _ => rfl, fun _ _ _ => rfl⟩

theorem inTurn_importAllConnections (policy : RowPolicy) (linking : StationLinking)
    (index : IdIndex) (total : Nat) :
    InTurn (·.connections.length)
      (fun done rows => importConnections policy done total (stopYield linking index rows))
      (fun done rows =>
        importAllConnections policy total done (rows.map (stopYield linking index))) :=
  ⟨fun _ => rfl, fun _ _ _ => rfl⟩

/-! ## Outcomes of the phases -/

theorem outcome_importNodes (policy : RowPolicy) (nodes : List NodeRow) :
    (importNodes policy nodes Network.empty).outcome =
      policy.settle (nodeRefusals nodes) (importedNodes nodes, (nodeRefusals nodes).length) :=
  outcome_pass Network.offerNode policy _ _ 0 nodes Network.empty

theorem outcome_importSections (policy : RowPolicy) (nodes : List NodeRow)
    (sections : List SectionRow) :
    (importSections policy sections (importedNodes nodes)).outcome =
      policy.settle (sectionRefusals nodes sections)
        (importedRoads nodes sections, (sectionRefusals nodes sections).length) :=
  outcome_pass Network.offerSection policy _ _ 0 sections (importedNodes nodes)

theorem outcome_importStops (options : ImportOptions) (index : IdIndex) (done total : Nat)
    (rows : TransitRows) :
    (importStops options index done total rows).outcome =
      options.onRowError.settle (stopRefusals options.stationLinking index rows)
        (stopYield options.stationLinking index rows) := by
  have hpass : (pass options.onRowError .stop (fun position => .row .stop (done + position) total)
      (StopIntake.accept options.stationLinking index) 0 rows.stops
      { network := TransitNetwork.empty rows.networkId rows.name }).outcome =
        options.onRowError.settle (stopRefusals options.stationLinking index rows)
          (stopIntake options.stationLinking index rows,
            (stopRefusals options.stationLinking index rows).length) :=
    outcome_pass (StopIntake.offer options.stationLinking index) options.onRowError _ _ 0 rows.stops
      (emptyIntake rows)
  rw [importStops, Report.outcome_bind, hpass]
  exact settle_bind_ok _ _ _ _ _ rfl

theorem outcome_importAllStops (options : ImportOptions) (index : IdIndex) (total done : Nat)
    (networks : List TransitRows) :
    (importAllStops options index total done networks).outcome =
      options.onRowError.settle (networks.flatMap (stopRefusals options.stationLinking index))
        (networks.map (stopYield options.stationLinking index)) :=
  (inTurn_importAllStops options index total).outcome
    (fun done rows => outcome_importStops options index done total rows) done networks

theorem outcome_importConnections (policy : RowPolicy) (linking : StationLinking) (index : IdIndex)
    (done total : Nat) (rows : TransitRows) :
    (importConnections policy done total (stopYield linking index rows)).outcome =
      policy.settle (connectionRefusals linking index rows)
        (importedTransit linking index rows, (connectionRefusals linking index rows).length) :=
  outcome_pass TransitNetwork.offerConnection policy _ _ 0 rows.connections
    (settledStops linking index rows).network

theorem outcome_importAllConnections (policy : RowPolicy) (linking : StationLinking)
    (index : IdIndex) (total done : Nat) (networks : List TransitRows) :
    (importAllConnections policy total done (networks.map (stopYield linking index))).outcome =
      policy.settle (networks.flatMap (connectionRefusals linking index))
        (networks.map fun rows =>
          (importedTransit linking index rows,
            (connectionRefusals linking index rows).length)) :=
  (inTurn_importAllConnections policy linking index total).outcome
    (fun done rows => outcome_importConnections policy linking index done total rows) done networks

/-! ## The whole import -/

namespace MemoryRows

variable (linking : StationLinking) (rows : MemoryRows)

def roads : Network := importedRoads rows.nodes rows.sections

def transitRefusals : List Failure :=
  rows.networks.flatMap (stopRefusals linking rows.roads.sectionIndex) ++
    rows.networks.flatMap (connectionRefusals linking rows.roads.sectionIndex)

/-- The failures of all refused rows, in the order in which an import meets them. -/
def refusals : List Failure :=
  nodeRefusals rows.nodes ++ sectionRefusals rows.nodes rows.sections ++
    rows.transitRefusals linking

def account : ImportStats where
  skippedNodes := (nodeRefusals rows.nodes).length
  skippedSections := (sectionRefusals rows.nodes rows.sections).length
  skippedStops := (rows.networks.flatMap (stopRefusals linking rows.roads.sectionIndex)).length
  skippedConnections :=
    (rows.networks.flatMap (connectionRefusals linking rows.roads.sectionIndex)).length
  unresolvedParents :=
    totalOf (fun t => (settledStops linking rows.roads.sectionIndex t).unresolved) rows.networks

/-- The network that the accepted rows make. -/
def imported : Network :=
  { rows.roads with
    transit := (rows.networks.map (importedTransit linking rows.roads.sectionIndex)).toArray
    stats := rows.account linking }

end MemoryRows

theorem totalOf_map {α β : Type} (count : β → Nat) (f : α → β) (items : List α) :
    totalOf count (items.map f) = totalOf (fun item => count (f item)) items := by
  simp [totalOf, List.foldr_map]

theorem totalOf_length {α β : Type} (f : α → List β) (items : List α) :
    totalOf (fun item => (f item).length) items = (items.flatMap f).length := by
  induction items with
  | nil => rfl
  | cons item rest ih => simpa [totalOf] using ih

theorem outcome_announce_bind {α : Type} (events : List Event) (next : Unit → Report α) :
    (Report.announce events >>= next).outcome = (next ()).outcome := by
  rw [Report.outcome_bind]
  rfl

theorem outcome_log_bind {α : Type} (lines : List Note) (next : Unit → Report α) :
    (Report.log lines >>= next).outcome = (next ()).outcome :=
  outcome_announce_bind _ next

/-- An import asks for its streams one after another, and settles the refusals of each phase before
the next stream. -/
theorem outcome_importNetwork (source : RowSource) (options : ImportOptions) :
    (importNetwork source options).outcome =
      source.nodes.bind fun nodes =>
        (options.onRowError.settle (nodeRefusals nodes) ()).bind fun _ =>
          source.sections.bind fun sections =>
            (options.onRowError.settle (sectionRefusals nodes sections) ()).bind fun _ =>
              source.networks.bind fun networks =>
                options.onRowError.settle
                  (MemoryRows.transitRefusals options.stationLinking ⟨nodes, sections, networks⟩)
                  (MemoryRows.imported options.stationLinking ⟨nodes, sections, networks⟩) := by
  unfold importNetwork
  rw [Report.outcome_bind]
  refine congrArg source.nodes.bind (funext fun nodes => ?_)
  rw [outcome_log_bind, Report.outcome_bind, outcome_importNodes]
  apply settle_bind_congr
  rw [Report.outcome_bind]
  refine congrArg source.sections.bind (funext fun sections => ?_)
  rw [outcome_log_bind, Report.outcome_bind, outcome_importSections]
  apply settle_bind_congr
  rw [Report.outcome_bind]
  refine congrArg source.networks.bind (funext fun networks => ?_)
  rw [outcome_log_bind, Report.outcome_bind, outcome_importAllStops]
  apply settle_bind
  rw [outcome_log_bind, Report.outcome_bind, outcome_importAllConnections]
  apply settle_bind_ok
  simp only [totalOf_map, stopYield, totalOf_length, List.map_map, Function.comp_def]
  rw [outcome_announce_bind]
  split <;> rfl

/-- An import of rows held in memory ends as its policy settles its refusals. -/
theorem outcome_importNetwork_source (rows : MemoryRows) (options : ImportOptions) :
    (importNetwork rows.source options).outcome =
      options.onRowError.settle (rows.refusals options.stationLinking)
        (rows.imported options.stationLinking) := by
  rw [outcome_importNetwork, MemoryRows.refusals, List.append_assoc]
  apply settle_bind
  exact settle_bind _ _ _ _ _ _ rfl

theorem outcome_importNetwork_skip (rows : MemoryRows) (linking : StationLinking) :
    (importNetwork rows.source ⟨.skip, linking⟩).outcome = .ok (rows.imported linking) :=
  outcome_importNetwork_source rows ⟨.skip, linking⟩

theorem outcome_importNetwork_fail_eq_ok_iff (rows : MemoryRows) (linking : StationLinking)
    (n : Network) :
    (importNetwork rows.source ⟨.fail, linking⟩).outcome = .ok n ↔
      rows.refusals linking = [] ∧ rows.imported linking = n := by
  rw [outcome_importNetwork_source]
  exact settle_fail_eq_ok_iff _ _ _

end Multimodal
