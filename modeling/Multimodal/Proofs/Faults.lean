import Multimodal.Proofs.Conservation

/-!
# What is wrong with rejected rows

A row is rejected with the first fault that is found in it. It is compared with the usable rows
before it: those rejected earlier are as good as absent, whatever became of them. So the rejected
rows and their failures can be told without running an import (`MemoryRows.faults`).

* `Acceptance.Follows.refusals_eq_faultsOf`: the refusals of a pass, told from its rows by a check.
* `MemoryRows.rejected_eq_faults`: the rejected rows of an import.
-/
namespace Multimodal

variable {ρ σ : Type}

/-! ## Refusals told from rows -/

/-- What a check finds in rows, each against those of the rows before it that are usable. -/
def faultsOf (check : List ρ → Nat → ρ → Option Failure) (usable : List ρ → List ρ)
    (rows : List ρ) : List Failure :=
  rows.zipIdx.filterMap fun (row, i) => check (usable (rows.take i)) i row

section
variable {accept : Acceptance ρ σ} {check : List ρ → Nat → ρ → Option Failure}
  {Holds : List ρ → σ → Prop} (follows : accept.Follows check Holds)
include follows

/-- A row is refused with what the check finds in it, against the rows accepted before it. -/
theorem Acceptance.Follows.refusals_eq_filterMap {kept : List ρ} (state : σ) (h : Holds kept state)
    (position : Nat) (rows : List ρ) :
    accept.refusals position rows state = rows.zipIdx.filterMap fun (row, i) =>
      check (kept ++ accept.accepted position (rows.take i) state) (position + i) row := by
  induction rows generalizing kept position state with
  | nil => rfl
  | cons row rest ih =>
    have hplace (i : Nat) : position + 1 + i = position + (i + 1) := by omega
    rw [List.zipIdx_cons', List.filterMap_cons, List.filterMap_map]
    cases hc : check kept position row with
    | some failure =>
      have refused := follows.refuses h hc
      simp only [List.take_zero, Acceptance.accepted, List.append_nil, Nat.add_zero, hc,
        Acceptance.refusals, refused, ih state h (position + 1), Function.comp_def, Prod.map, id_eq,
        List.take_succ_cons, hplace]
    | none =>
      obtain ⟨next, notes, admitted, hnext⟩ := follows.accepts h hc
      simp only [List.take_zero, Acceptance.accepted, List.append_nil, Nat.add_zero, hc,
        Acceptance.refusals, admitted, ih next hnext (position + 1), Function.comp_def, Prod.map,
        id_eq, List.take_succ_cons, List.append_assoc, List.singleton_append, hplace]

theorem Acceptance.Follows.refusals_eq_faultsOf (state : σ) (h : Holds [] state)
    {usable : List ρ → List ρ} (rows : List ρ)
    (husable : ∀ i, accept.accepted 0 (rows.take i) state = usable (rows.take i)) :
    accept.refusals 0 rows state = faultsOf check usable rows := by
  rw [follows.refusals_eq_filterMap state h]
  simp only [husable, List.nil_append, Nat.zero_add]
  rfl

end

/-! ## The phases of an import -/

namespace MemoryRows

variable (rows : MemoryRows)

/-- What is wrong with node rows: only the id of an earlier one can be taken. -/
def nodeFaults : List Failure :=
  faultsOf (fun kept _ row => firstFailure (row.checks (kept.map (·.id)))) (firsts (·.id))
    rows.nodes

def sectionFaults : List Failure :=
  faultsOf
    (fun kept position row =>
      firstFailure (row.checks (rows.usable.nodes.map (·.id)) (kept.map (·.id)) position))
    (fun before => firsts (·.id) (validSections rows.nodes before)) rows.sections

def stopFaults (t : TransitRows) : List Failure :=
  faultsOf
    (fun kept position row =>
      firstFailure (row.checks (rows.usable.sections.map (·.id)) (kept.map (·.id)) position))
    (validStops (rows.usable.sections.map (·.id))) t.stops

def connectionFaults (t : TransitRows) : List Failure :=
  let stops := (validStops (rows.usable.sections.map (·.id)) t.stops).map (·.id)
  faultsOf (fun _ position row => firstFailure (row.checks stops position))
    (fun before => before.filter (ConnectionRow.isValid stops)) t.connections

/-- The rejected rows by kind, with what is wrong with them, in the order in which an import meets
them. -/
def faults : List (RecordKind × Failure) :=
  rows.nodeFaults.map (.roadNode, ·) ++ rows.sectionFaults.map (.roadSection, ·) ++
    (rows.networks.flatMap rows.stopFaults).map (.stop, ·) ++
    (rows.networks.flatMap rows.connectionFaults).map (.transitSection, ·)

theorem nodeRefusals_eq : nodeRefusals rows.nodes = rows.nodeFaults :=
  Network.follows_offerNode.refusals_eq_faultsOf Network.empty Network.holdsRoads_empty rows.nodes
    fun i => accepted_offerNode (rows.nodes.take i)

theorem sectionRefusals_eq : sectionRefusals rows.nodes rows.sections = rows.sectionFaults :=
  (Network.follows_offerSection rows.usable.nodes).refusals_eq_faultsOf (importedNodes rows.nodes)
    (holdsRoads_importedNodes rows.nodes) rows.sections
    fun i => accepted_offerSection rows.nodes (rows.sections.take i)

theorem stopRefusals_eq (linking : StationLinking) :
    stopRefusals linking rows.roads.sectionIndex = rows.stopFaults := by
  funext t
  have hindex := rows.holdsRoads_roads.sectionIndex
  exact (StopIntake.follows_offer linking hindex t.networkId t.name).refusals_eq_faultsOf
    (emptyIntake t) (TransitNetwork.holds_empty _ _ _) t.stops
    fun i => accepted_offerStop hindex linking { t with stops := t.stops.take i }

theorem connectionRefusals_eq (linking : StationLinking) :
    connectionRefusals linking rows.roads.sectionIndex = rows.connectionFaults := by
  funext t
  have hindex := rows.holdsRoads_roads.sectionIndex
  have follows := TransitNetwork.follows_offerConnection (rows.usable.sections.map (·.id))
    ⟨t.networkId, t.name, validStops (rows.usable.sections.map (·.id)) t.stops, []⟩
  have haccepted (i : Nat) :
      TransitNetwork.offerConnection.accepted 0 (t.connections.take i)
          (settledStops linking rows.roads.sectionIndex t).network =
        (t.connections.take i).filter (ConnectionRow.isValid
          ((validStops (rows.usable.sections.map (·.id)) t.stops).map (·.id))) :=
    accepted_offerConnection hindex linking { t with connections := t.connections.take i }
  exact follows.refusals_eq_faultsOf _ (holds_settledStops hindex linking t) t.connections haccepted

/-- An import rejects the rows in which a fault is found, with the first of their faults. -/
theorem rejected_eq_faults (linking : StationLinking) : rows.rejected linking = rows.faults := by
  rw [rejected, faults, rows.nodeRefusals_eq, rows.sectionRefusals_eq, rows.stopRefusals_eq,
    rows.connectionRefusals_eq]

end MemoryRows

end Multimodal
