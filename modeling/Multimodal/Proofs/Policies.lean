import Multimodal.Proofs.Outcome

/-!
# Skipping rows and failing at them

The two policies for rows that cannot be used see the same rows: what an import that skips leaves
out is what an import that fails stumbles over. Left with the rows that the first accepts
(`MemoryRows.accepted`), the second goes through the same states and makes the same network.

* `MemoryRows.leavesOut_accepted`: the accepted rows are the given ones without as many as the
  account of the import says.
* `importNetwork_skip_agrees_with_fail`: what either policy makes of rows follows from what the
  other makes of them.
-/
namespace Multimodal

/-! ## The accepted rows -/

def TransitRows.accepted (linking : StationLinking) (index : IdIndex) (rows : TransitRows) :
    TransitRows where
  networkId := rows.networkId
  name := rows.name
  stops := (StopIntake.offer linking index).accepted 0 rows.stops (emptyIntake rows)
  connections :=
    TransitNetwork.offerConnection.accepted 0 rows.connections
      (settledStops linking index rows).network

/-- The rows that an import accepts: all but those it refuses, in their order. -/
def MemoryRows.accepted (linking : StationLinking) (rows : MemoryRows) : MemoryRows where
  nodes := Network.offerNode.accepted 0 rows.nodes Network.empty
  sections := Network.offerSection.accepted 0 rows.sections (importedNodes rows.nodes)
  networks := rows.networks.map (TransitRows.accepted linking rows.roads.sectionIndex)

/-- `kept` is `rows` less some rows, and `stats` counts those of each kind. -/
structure MemoryRows.LeavesOut (rows kept : MemoryRows) (stats : ImportStats) : Prop where
  nodes : kept.nodes.Sublist rows.nodes
  sections : kept.sections.Sublist rows.sections
  networks : List.Forall₂ (fun all chosen =>
      chosen.networkId = all.networkId ∧ chosen.name = all.name ∧
      chosen.stops.Sublist all.stops ∧ chosen.connections.Sublist all.connections)
    rows.networks kept.networks
  nodeCount : kept.nodes.length + stats.skippedNodes = rows.nodes.length
  sectionCount : kept.sections.length + stats.skippedSections = rows.sections.length
  stopCount : totalOf (·.stops.length) kept.networks + stats.skippedStops =
    totalOf (·.stops.length) rows.networks
  connectionCount : totalOf (·.connections.length) kept.networks + stats.skippedConnections =
    totalOf (·.connections.length) rows.networks

theorem totalOf_add {α : Type} {f g h : α → Nat} (hsum : ∀ item, f item + g item = h item)
    (items : List α) : totalOf f items + totalOf g items = totalOf h items := by
  induction items with
  | nil => rfl
  | cons item rest ih =>
    have hitem := hsum item
    simp only [totalOf, List.foldr_cons] at ih ⊢
    omega

theorem MemoryRows.leavesOut_accepted (linking : StationLinking) (rows : MemoryRows) :
    rows.LeavesOut (rows.accepted linking) (rows.account linking) where
  nodes := accepted_sublist _ 0 rows.nodes Network.empty
  sections := accepted_sublist _ 0 rows.sections (importedNodes rows.nodes)
  networks := by
    rw [MemoryRows.accepted, List.forall₂_map_right_iff, List.forall₂_same]
    intro t _
    exact ⟨rfl, rfl, accepted_sublist _ 0 t.stops _, accepted_sublist _ 0 t.connections _⟩
  nodeCount := length_accepted_add_refusals _ 0 rows.nodes Network.empty
  sectionCount := length_accepted_add_refusals _ 0 rows.sections (importedNodes rows.nodes)
  stopCount := by
    rw [MemoryRows.accepted, MemoryRows.account, totalOf_map,
      ← totalOf_length (stopRefusals linking rows.roads.sectionIndex)]
    exact totalOf_add (fun t => length_accepted_add_refusals _ 0 t.stops _) rows.networks
  connectionCount := by
    rw [MemoryRows.accepted, MemoryRows.account, totalOf_map,
      ← totalOf_length (connectionRefusals linking rows.roads.sectionIndex)]
    exact totalOf_add (fun t => length_accepted_add_refusals _ 0 t.connections _) rows.networks

/-! ## Importing the accepted rows -/

section
variable (linking : StationLinking) (index : IdIndex) (t : TransitRows)

theorem settledStops_accepted :
    settledStops linking index (t.accepted linking index) = settledStops linking index t :=
  congrArg (fun s => s.settle.1)
    (after_accepted _ (StopIntake.steady_offer linking index) 0 0 t.stops (emptyIntake t))

theorem stopRefusals_accepted : stopRefusals linking index (t.accepted linking index) = [] :=
  refusals_accepted _ (StopIntake.steady_offer linking index) 0 0 t.stops (emptyIntake t)

theorem connectionRefusals_accepted :
    connectionRefusals linking index (t.accepted linking index) = [] := by
  rw [connectionRefusals, settledStops_accepted]
  exact refusals_accepted _ TransitNetwork.steady_offerConnection 0 0 t.connections _

theorem importedTransit_accepted :
    importedTransit linking index (t.accepted linking index) = importedTransit linking index t := by
  rw [importedTransit, settledStops_accepted]
  exact after_accepted _ TransitNetwork.steady_offerConnection 0 0 t.connections _

end

namespace MemoryRows

variable (linking : StationLinking) (rows : MemoryRows)

theorem importedNodes_accepted :
    importedNodes (rows.accepted linking).nodes = importedNodes rows.nodes :=
  after_accepted _ Network.steady_offerNode 0 0 rows.nodes Network.empty

theorem roads_accepted : (rows.accepted linking).roads = rows.roads := by
  rw [roads, importedRoads, importedNodes_accepted]
  exact after_accepted _ Network.steady_offerSection 0 0 rows.sections (importedNodes rows.nodes)

/-- No accepted row is refused when only such rows are imported. -/
theorem refusals_accepted : (rows.accepted linking).refusals linking = [] := by
  have hnodes : nodeRefusals (rows.accepted linking).nodes = [] :=
    Multimodal.refusals_accepted _ Network.steady_offerNode 0 0 rows.nodes Network.empty
  have hsections :
      sectionRefusals (rows.accepted linking).nodes (rows.accepted linking).sections = [] := by
    rw [sectionRefusals, importedNodes_accepted]
    exact Multimodal.refusals_accepted _ Network.steady_offerSection 0 0 rows.sections _
  rw [refusals, hnodes, hsections, transitRefusals, roads_accepted]
  simp [accepted, List.flatMap_map, stopRefusals_accepted, connectionRefusals_accepted]

/-- The accepted rows make the network that all rows make, with nothing skipped. -/
theorem imported_accepted :
    (rows.accepted linking).imported linking =
      { rows.imported linking with
        stats := { unresolvedParents := (rows.imported linking).stats.unresolvedParents } } := by
  have hnone := refusals_accepted linking rows
  simp only [refusals, transitRefusals, roads_accepted, List.append_eq_nil_iff] at hnone
  obtain ⟨⟨hnodes, hsections⟩, hstops, hconnections⟩ := hnone
  simp only [imported, account, roads_accepted, hnodes, hsections, hstops, hconnections,
    List.length_nil]
  simp [accepted, totalOf_map, settledStops_accepted, importedTransit_accepted]

theorem totalSkipped_account :
    (rows.account linking).totalSkipped = (rows.refusals linking).length := by
  simp only [account, ImportStats.totalSkipped, refusals, transitRefusals, List.length_append]
  omega

end MemoryRows

/-! ## The two policies -/

/-- An import that skips always succeeds. An import of the rows it accepts, which are all but as
many as it counts, makes the same network without a failure. An import of all rows that fails at the
first row it cannot use succeeds exactly if nothing is skipped, and with the same network. -/
theorem importNetwork_skip_agrees_with_fail (rows : MemoryRows) (linking : StationLinking) :
    ∃ n, (importNetwork rows.source ⟨.skip, linking⟩).outcome = .ok n ∧
      rows.LeavesOut (rows.accepted linking) n.stats ∧
      (importNetwork (rows.accepted linking).source ⟨.fail, linking⟩).outcome =
        .ok { n with stats := { unresolvedParents := n.stats.unresolvedParents } } ∧
      ((∃ m, (importNetwork rows.source ⟨.fail, linking⟩).outcome = .ok m) ↔
        n.stats.totalSkipped = 0) ∧
      ((importNetwork rows.source ⟨.fail, linking⟩).outcome = .ok n ↔
        n.stats.totalSkipped = 0) := by
  have hskipped : (rows.imported linking).stats.totalSkipped = 0 ↔ rows.refusals linking = [] := by
    rw [← List.length_eq_zero_iff, ← rows.totalSkipped_account linking]
    rfl
  refine ⟨rows.imported linking, outcome_importNetwork_skip rows linking,
    rows.leavesOut_accepted linking, ?_, ?_, ?_⟩
  · rw [outcome_importNetwork_fail_eq_ok_iff]
    exact ⟨rows.refusals_accepted linking, rows.imported_accepted linking⟩
  · simp only [outcome_importNetwork_fail_eq_ok_iff, hskipped]
    exact ⟨fun ⟨_, hnone, _⟩ => hnone, fun hnone => ⟨_, hnone, rfl⟩⟩
  · rw [outcome_importNetwork_fail_eq_ok_iff, hskipped]
    exact ⟨fun ⟨hnone, _⟩ => hnone, fun hnone => ⟨hnone, rfl⟩⟩

end Multimodal
