import Multimodal.Proofs.StationNotes

/-!
# The log of an import

Every phase begins with a line that says how many rows there are, and goes on with the logs of its
passes. The lines about stations that were found missing in the second pass over stops stand behind
those of the rows of their network. The import ends with what it left out and what it made.

* `notes_importNodes`, `notes_importSections`, `notes_importAllStops`, `notes_importAllConnections`:
  the logs of the phases.
* `notes_importNetwork_source`: the log of an import (`MemoryRows.log`), if its policy lets it come
  to its end.
-/
namespace Multimodal

variable {α β γ : Type}

/-! ## What reports write -/

theorem RowPolicy.Passes.settle_eq {policy : RowPolicy} {refusals : List Failure}
    (h : policy.Passes refusals) (value : α) : policy.settle refusals value = .ok value := by
  rcases h with rfl | rfl
  · exact settle_skip _ _
  · exact settle_nil _ _

theorem RowPolicy.passes_append {policy : RowPolicy} {refusals more : List Failure} :
    policy.Passes (refusals ++ more) ↔ policy.Passes refusals ∧ policy.Passes more := by
  simp only [Passes, List.append_eq_nil_iff]
  tauto

namespace Report

theorem notes_bind {r : Report α} {a : α} (h : r.outcome = .ok a) (next : α → Report β) :
    (r >>= next).notes = r.notes ++ (next a).notes :=
  heard_bind_of_ok h next

theorem notes_log (lines : List Note) : (log lines).notes = lines := filterMap_note lines

theorem notes_log_bind (lines : List Note) (next : Unit → Report β) :
    (log lines >>= next).notes = lines ++ (next ()).notes := by
  rw [notes_bind rfl, notes_log]

theorem notes_ofExcept_bind {outcome : Except Failure α} {a : α} (h : outcome = .ok a)
    (next : α → Report β) : (ofExcept outcome >>= next).notes = (next a).notes := by
  rw [notes_bind (r := ofExcept outcome) h]
  rfl

end Report

theorem InTurn.notes {policy : RowPolicy} {refusals : β → List Failure} {size : β → Nat}
    {lines : β → List Note} {one : Nat → β → Report γ} {all : Nat → List β → Report (List γ)}
    (inTurn : InTurn size one all)
    (hone : ∀ done item, policy.Passes (refusals item) →
      ∃ value, (one done item).outcome = .ok value ∧ (one done item).notes = lines item)
    (done : Nat) {items : List β} (h : policy.Passes (items.flatMap refusals)) :
    (all done items).notes = items.flatMap lines := by
  induction items generalizing done with
  | nil => exact inTurn.heard_nil done
  | cons item rest ih =>
    obtain ⟨hitem, hrest⟩ := RowPolicy.passes_append.mp h
    obtain ⟨value, houtcome, hnotes⟩ := hone done item hitem
    refine (inTurn.heard_cons_of_ok houtcome rest).trans ?_
    rw [← Report.notes_eq_heard, ← Report.notes_eq_heard, hnotes, ih _ hrest, List.flatMap_cons]

/-! ## The logs of the phases -/

def nodeLog (nodes : List NodeRow) : List Note :=
  Network.offerNode.log .roadNode 0 nodes Network.empty

def sectionLog (nodes : List NodeRow) (sections : List SectionRow) : List Note :=
  Network.offerSection.log .roadSection 0 sections (importedNodes nodes)

section
variable (linking : StationLinking) (index : IdIndex) (rows : TransitRows)

/-- The log of a network's stop rows, and of the claims that were kept. -/
def stopLog : List Note :=
  (StopIntake.offer linking index).log .stop 0 rows.stops (emptyIntake rows) ++
    (stopIntake linking index rows).settle.2

def connectionLog : List Note :=
  TransitNetwork.offerConnection.log .transitSection 0 rows.connections
    (settledStops linking index rows).network

end

theorem notes_importNodes {policy : RowPolicy} {nodes : List NodeRow}
    (h : policy.Passes (nodeRefusals nodes)) :
    (importNodes policy nodes Network.empty).notes = nodeLog nodes :=
  notes_pass h _ _ fun _ => rfl

theorem notes_importSections {policy : RowPolicy} {nodes : List NodeRow}
    {sections : List SectionRow} (h : policy.Passes (sectionRefusals nodes sections)) :
    (importSections policy sections (importedNodes nodes)).notes = sectionLog nodes sections :=
  notes_pass h _ _ fun _ => rfl

theorem notes_importStops {options : ImportOptions} {index : IdIndex} (done total : Nat)
    {rows : TransitRows}
    (h : options.onRowError.Passes (stopRefusals options.stationLinking index rows)) :
    (importStops options index done total rows).notes =
      stopLog options.stationLinking index rows := by
  let tick (position : Nat) : Event := .row .stop (done + position) total
  have hpasses : options.onRowError.Passes
    ((StopIntake.offer options.stationLinking index).refusals 0 rows.stops (emptyIntake rows)) := h
  have houtcome := outcome_pass (StopIntake.offer options.stationLinking index)
    options.onRowError .stop tick 0 rows.stops (emptyIntake rows)
  rw [hpasses.settle_eq] at houtcome
  refine (Report.notes_bind houtcome _).trans ?_
  refine congrArg₂ (· ++ ·) (notes_pass hpasses .stop tick fun _ => rfl) ?_
  exact (Report.notes_log_bind _ _).trans (List.append_nil _)

theorem notes_importAllStops {options : ImportOptions} {index : IdIndex} (total : Nat)
    {networks : List TransitRows} (h : options.onRowError.Passes
      (networks.flatMap (stopRefusals options.stationLinking index))) :
    (importAllStops options index total 0 networks).notes =
      networks.flatMap (stopLog options.stationLinking index) := by
  refine (inTurn_importAllStops options index total).notes ?_ 0 h
  intro done rows hrows
  refine ⟨stopYield options.stationLinking index rows, ?_, notes_importStops done total hrows⟩
  rw [outcome_importStops, hrows.settle_eq]

theorem notes_importAllConnections {policy : RowPolicy} {linking : StationLinking}
    {index : IdIndex} (total : Nat) {networks : List TransitRows}
    (h : policy.Passes (networks.flatMap (connectionRefusals linking index))) :
    (importAllConnections policy total 0 (networks.map (stopYield linking index))).notes =
      networks.flatMap (connectionLog linking index) := by
  refine (inTurn_importAllConnections policy linking index total).notes ?_ 0 h
  intro done rows hrows
  refine ⟨(importedTransit linking index rows, (connectionRefusals linking index rows).length), ?_,
    notes_pass hrows _ _ fun _ => rfl⟩
  rw [outcome_importConnections, hrows.settle_eq]

/-! ## The whole log -/

/-- The lines after the last row: how many rows were left out, if any, and what was imported. -/
def closingNotes (n : Network) : List Note :=
  (if 0 < n.stats.totalSkipped then [.rowsSkipped n.stats.totalSkipped] else []) ++
    [.imported n.summary]

def MemoryRows.log (linking : StationLinking) (rows : MemoryRows) : List Note :=
  let index := rows.roads.sectionIndex
  ([.importingNodes rows.nodes.length] ++ nodeLog rows.nodes) ++
    ([.importingSections rows.sections.length] ++ sectionLog rows.nodes rows.sections) ++
    ([.importingStops (totalOf (·.stops.length) rows.networks) rows.networks.length] ++
      rows.networks.flatMap (stopLog linking index)) ++
    ([.importingConnections (totalOf (·.connections.length) rows.networks)] ++
      rows.networks.flatMap (connectionLog linking index)) ++
    closingNotes (rows.imported linking)

theorem notes_closing (n : Network) :
    (do
      Report.announce [.finished]
      if 0 < n.stats.totalSkipped then Report.log [.rowsSkipped n.stats.totalSkipped]
      Report.log [.imported n.summary]
      return n : Report Network).notes = closingNotes n := by
  rw [Report.notes_bind rfl, closingNotes]
  split
  · rw [Report.notes_log_bind, Report.notes_log_bind]
    rfl
  · rw [Report.notes_log_bind]
    rfl

/-- An import that comes to its end writes the log of its rows. -/
theorem notes_importNetwork_source {rows : MemoryRows} {options : ImportOptions}
    (h : options.onRowError.Passes (rows.refusals options.stationLinking)) :
    (importNetwork rows.source options).notes = rows.log options.stationLinking := by
  obtain ⟨hroads, htransit⟩ := RowPolicy.passes_append.mp h
  obtain ⟨hnodes, hsections⟩ := RowPolicy.passes_append.mp hroads
  obtain ⟨hstops, hconnections⟩ := RowPolicy.passes_append.mp htransit
  rw [MemoryRows.roads] at hstops hconnections
  have hnodesOk := (outcome_importNodes options.onRowError rows.nodes).trans (hnodes.settle_eq _)
  have hsectionsOk := (outcome_importSections options.onRowError rows.nodes rows.sections).trans
    (hsections.settle_eq _)
  have hstopsOk := (outcome_importAllStops options _ (totalOf (·.stops.length) rows.networks) 0
    rows.networks).trans (hstops.settle_eq _)
  have hconnectionsOk := (outcome_importAllConnections options.onRowError options.stationLinking _
    (totalOf (·.connections.length) rows.networks) 0 rows.networks).trans
    (hconnections.settle_eq _)
  have hnodesThere : rows.source.nodes = .ok rows.nodes := rfl
  have hsectionsThere : rows.source.sections = .ok rows.sections := rfl
  have hnetworksThere : rows.source.networks = .ok rows.networks := rfl
  rw [importNetwork, Report.notes_ofExcept_bind hnodesThere, Report.notes_log_bind,
    Report.notes_bind hnodesOk, Report.notes_ofExcept_bind hsectionsThere, Report.notes_log_bind,
    Report.notes_bind hsectionsOk, Report.notes_ofExcept_bind hnetworksThere,
    Report.notes_log_bind, Report.notes_bind hstopsOk, Report.notes_log_bind,
    Report.notes_bind hconnectionsOk, notes_importNodes hnodes, notes_importSections hsections,
    notes_importAllStops _ hstops, notes_importAllConnections _ hconnections]
  -- what is left are the last lines, and they count what the phases refused
  have hclosing := notes_closing (rows.imported options.stationLinking)
  rw [← MemoryRows.roads, MemoryRows.log, ← hclosing]
  simp only [totalOf_map, stopYield, totalOf_length, List.map_map, Function.comp_def,
    List.append_assoc]
  rfl

end Multimodal
