import Multimodal.Proofs.ByIds
import Multimodal.Proofs.SoundRows

/-!
# Rows in another order

With two passes over the stops, what an import makes of rows that it can all use does not depend on
their order. Handles do, so the networks are compared by ids (`Network.SameRecords`): records that
are equal up to their order, the same record under every id, and the same account of the import.

* `MemoryRows.Reorders.sound`: whether all rows can be used does not depend on their order.
* `MemoryRows.Reorders.sameRecords`: the imported networks have the same records.
* `importNetwork_reordered`: so do the outcomes of imports that fail at rows they cannot use.
-/
namespace Multimodal

/-! ## Rows in another order -/

/-- The rows of a network in another order. -/
structure TransitRows.Reorders (t u : TransitRows) : Prop where
  networkId : t.networkId = u.networkId
  name : t.name = u.name
  stops : t.stops.Perm u.stops
  connections : t.connections.Perm u.connections

structure MemoryRows.Reorders (rows others : MemoryRows) : Prop where
  nodes : rows.nodes.Perm others.nodes
  sections : rows.sections.Perm others.sections
  networks : List.Forall₂ TransitRows.Reorders rows.networks others.networks

theorem mem_map_iff_of_perm {ρ : Type} {rows others : List ρ} (h : rows.Perm others)
    (key : ρ → RecordId) (id : RecordId) : id ∈ rows.map key ↔ id ∈ others.map key :=
  (h.map key).mem_iff

theorem TransitRows.Reorders.sound {t u : TransitRows} (h : t.Reorders u)
    {ids others : List RecordId} (hids : ∀ id, id ∈ ids ↔ id ∈ others) (ht : t.Sound ids) :
    u.Sound others where
  stopIds := (h.stops.map (·.id)).nodup_iff.mp ht.stopIds
  stops := by
    intro row hrow
    rw [← StopRow.isValid_congr hids]
    exact ht.stops row (h.stops.mem_iff.mpr hrow)
  connections := by
    intro row hrow
    rw [← ConnectionRow.isValid_congr (mem_map_iff_of_perm h.stops (·.id))]
    exact ht.connections row (h.connections.mem_iff.mpr hrow)

/-- Whether all rows can be used does not depend on their order. -/
theorem MemoryRows.Reorders.sound {rows others : MemoryRows} (h : rows.Reorders others)
    (hrows : rows.Sound) : others.Sound where
  nodeIds := (h.nodes.map (·.id)).nodup_iff.mp hrows.nodeIds
  sectionIds := (h.sections.map (·.id)).nodup_iff.mp hrows.sectionIds
  sections := by
    intro row hrow
    rw [← SectionRow.isValid_congr (mem_map_iff_of_perm h.nodes (·.id))]
    exact hrows.sections row (h.sections.mem_iff.mpr hrow)
  networks :=
    forall_mem_of_forall₂
      (fun _ _ htu ht => htu.sound (mem_map_iff_of_perm h.sections (·.id)) ht) h.networks
      hrows.networks

/-! ## Networks with the same records -/

/-- Two public transport networks, one on the roads of `n` and one on those of `m`, have the same
records. -/
structure TransitNetwork.SameRecords (n m : Network) (t u : TransitNetwork) : Prop where
  id : t.id = u.id
  name : t.name = u.name
  stops : (t.stopRecords n).Perm (u.stopRecords m)
  findStop : ∀ id, t.findStop n id = u.findStop m id
  connections : t.connectionRecords.Perm u.connectionRecords

/-- Two networks are the same but for the order of their records, and thus for their handles. -/
structure Network.SameRecords (n m : Network) : Prop where
  nodes : n.road.vertices.toList.Perm m.road.vertices.toList
  findNode : ∀ id, n.findNode id = m.findNode id
  sections : n.sectionRecords.Perm m.sectionRecords
  findSection : ∀ id, n.findSection id = m.findSection id
  transit : List.Forall₂ (TransitNetwork.SameRecords n m) n.transit.toList m.transit.toList
  stats : n.stats = m.stats

/-- What is found under an id does not depend on the order of rows. -/
theorem eq_of_find_iff {ρ γ : Type} {rows others : List ρ} (h : rows.Perm others)
    {key : ρ → RecordId} {record : ρ → γ} {id : RecordId} {found other : Option γ}
    (hfound : ∀ c, found = some c ↔ ∃ row ∈ rows, key row = id ∧ record row = c)
    (hother : ∀ c, other = some c ↔ ∃ row ∈ others, key row = id ∧ record row = c) :
    found = other := by
  apply Option.ext
  intro c
  simp only [hfound, hother, h.mem_iff]

section
variable {nodes nodes' : List NodeRow} {sections sections' : List SectionRow} {n m : Network}
  {t u : TransitRows}

/-- The rows of a public transport network in another order make the same network. -/
theorem TransitRows.Reorders.sameRecords (h : t.Reorders u) (hn : n.HoldsRoads nodes sections)
    (hm : m.HoldsRoads nodes' sections') (ht : t.Sound (sections.map (·.id)))
    (hu : u.Sound (sections'.map (·.id))) :
    (importedTransit .twoPass n.sectionIndex t).SameRecords n m
      (importedTransit .twoPass m.sectionIndex u) := by
  have htHolds := holds_importedTransit hn.sectionIndex .twoPass t
  have huHolds := holds_importedTransit hm.sectionIndex .twoPass u
  have htRecords := stopRecords_importedTransit hn t
  have huRecords := stopRecords_importedTransit hm u
  have htFind := findStop_importedTransit hn t
  have huFind := findStop_importedTransit hm u
  have hrecord : StopRow.record (t.stops.map (·.id)) = StopRow.record (u.stops.map (·.id)) := by
    funext row
    rw [StopRow.record, StopRow.record,
      row.stationId?_congr (mem_map_iff_of_perm h.stops (·.id))]
  rw [validTransit_eq_self_iff _ _ |>.mpr ht] at htHolds
  rw [validTransit_eq_self_iff _ _ |>.mpr hu] at huHolds
  simp only [validStops_eq_self ht, hrecord] at htRecords htFind
  simp only [validStops_eq_self hu] at huRecords huFind
  refine ⟨?_, ?_, ?_, ?_, ?_⟩
  · rw [htHolds.id, huHolds.id, h.networkId]
  · rw [htHolds.name, huHolds.name, h.name]
  · rw [htRecords, huRecords]
    exact h.stops.map _
  · intro id
    exact eq_of_find_iff h.stops (htFind id) (huFind id)
  · rw [htHolds.connectionRecords_eq, huHolds.connectionRecords_eq]
    exact h.connections.map _

theorem TransitRows.Reorders.unresolved_eq (h : t.Reorders u) (hn : n.HoldsRoads nodes sections)
    (hm : m.HoldsRoads nodes' sections') (ht : t.Sound (sections.map (·.id)))
    (hu : u.Sound (sections'.map (·.id))) :
    (settledStops .twoPass n.sectionIndex t).unresolved =
      (settledStops .twoPass m.sectionIndex u).unresolved := by
  rw [unresolved_settledStops_twoPass hn.sectionIndex, unresolved_settledStops_twoPass
    hm.sectionIndex, validStops_eq_self ht, validStops_eq_self hu, h.stops.countP_eq]
  simp only [StopRow.stationId?_congr (mem_map_iff_of_perm h.stops (·.id))]

end

/-! ## The network of an import -/

namespace MemoryRows

variable {rows others : MemoryRows}

theorem Sound.holdsRoads_imported (h : rows.Sound) (linking : StationLinking) :
    (rows.imported linking).HoldsRoads rows.nodes rows.sections := by
  have hroads := rows.holdsRoads_imported linking
  rwa [(usable_eq_self_iff rows).mpr h] at hroads

/-- An import of rows that it can all use skips none. -/
theorem Sound.stats_imported (h : rows.Sound) (linking : StationLinking) :
    (rows.imported linking).stats =
      { unresolvedParents := (rows.imported linking).stats.unresolvedParents } := by
  have haccepted : rows.accepted linking = rows :=
    (rows.accepted_eq_usable linking).trans ((usable_eq_self_iff rows).mpr h)
  have hskipped := congrArg Network.stats (rows.imported_accepted linking)
  rwa [haccepted] at hskipped

/-- The order of rows that can all be used does not matter. -/
theorem Reorders.sameRecords (h : rows.Reorders others) (hrows : rows.Sound) :
    (rows.imported .twoPass).SameRecords (others.imported .twoPass) := by
  have hothers := h.sound hrows
  have hn := hrows.holdsRoads_imported .twoPass
  have hm := hothers.holdsRoads_imported .twoPass
  have hnetworks : List.Forall₂ (fun t u => t.Sound (rows.sections.map (·.id)) ∧ t.Reorders u)
      rows.networks others.networks :=
    (List.forall₂_and_left _ _).mpr ⟨hrows.networks, h.networks⟩
  refine ⟨?_, ?_, ?_, ?_, ?_, ?_⟩
  · rw [hn.vertices, hm.vertices]
    exact h.nodes.map _
  · intro id
    exact eq_of_find_iff h.nodes (hn.findNode_eq_some_iff id) (hm.findNode_eq_some_iff id)
  · rw [hn.sectionRecords_eq, hm.sectionRecords_eq]
    exact h.sections.map _
  · intro id
    exact eq_of_find_iff h.sections (hn.findSection_eq_some_iff id)
      (hm.findSection_eq_some_iff id)
  · simp only [imported]
    rw [List.forall₂_map_left_iff, List.forall₂_map_right_iff]
    refine hnetworks.imp fun t u htu => ?_
    have hu := htu.2.sound (mem_map_iff_of_perm h.sections (·.id)) htu.1
    exact htu.2.sameRecords hn hm htu.1 hu
  · -- nothing is skipped on either side, so only the stops without their station are left to count
    have hcounts : others.networks.map (fun u =>
          (settledStops .twoPass others.roads.sectionIndex u).unresolved) =
        rows.networks.map fun t =>
          (settledStops .twoPass rows.roads.sectionIndex t).unresolved := by
      refine map_eq_map_of_forall₂_eq (fun t u htu => ?_) hnetworks
      have hu := htu.2.sound (mem_map_iff_of_perm h.sections (·.id)) htu.1
      exact (htu.2.unresolved_eq hn hm htu.1 hu).symm
    have htotal := congrArg (totalOf fun count => count) hcounts
    rw [totalOf_map, totalOf_map] at htotal
    rw [hrows.stats_imported, hothers.stats_imported]
    exact congrArg (fun count => ({ unresolvedParents := count } : ImportStats)) htotal.symm

end MemoryRows

/-! ## The result -/

/-- Where an import with two passes succeeds without skipping, it does so in any order of the rows,
and with the same network but for the order of its records. -/
theorem importNetwork_reordered {rows others : MemoryRows} (h : rows.Reorders others) {n : Network}
    (hn : (importNetwork rows.source ⟨.fail, .twoPass⟩).outcome = .ok n) :
    ∃ m, (importNetwork others.source ⟨.fail, .twoPass⟩).outcome = .ok m ∧ n.SameRecords m := by
  obtain ⟨hnone, rfl⟩ := (outcome_importNetwork_fail_eq_ok_iff rows .twoPass n).mp hn
  have hrows := (refusals_eq_nil_iff_sound .twoPass rows).mp hnone
  refine ⟨others.imported .twoPass, ?_, h.sameRecords hrows⟩
  rw [outcome_importNetwork_fail_eq_ok_iff, refusals_eq_nil_iff_sound]
  exact ⟨h.sound hrows, rfl⟩

/-- Stops that declare a station below them, none, and one that there is not. -/
def junction : MemoryRows where
  nodes := [{ id := 1 }, { id := 2, isJunction := true }]
  sections := [{ id := 7, nodeFrom := 1, nodeTo := 2 }, { id := 8, nodeFrom := 2, nodeTo := 2 }]
  networks :=
    [ { networkId := 1, name := "bus"
        stops :=
          [ { id := 11, parentStation := some 12, roadSection := 7 },
            { id := 12, isStation := true, roadSection := 8 },
            { id := 13, parentStation := some 9, roadSection := 7, abscissa := 0.5 } ]
        connections := [⟨11, 12⟩, ⟨12, 13⟩, ⟨11, 12⟩] } ]

def junctionReversed : MemoryRows where
  nodes := junction.nodes.reverse
  sections := junction.sections.reverse
  networks :=
    junction.networks.map fun t =>
      { t with stops := t.stops.reverse, connections := t.connections.reverse }

theorem reorders_junction : junction.Reorders junctionReversed where
  nodes := (List.reverse_perm _).symm
  sections := (List.reverse_perm _).symm
  networks := by
    rw [junctionReversed, List.forall₂_map_right_iff, List.forall₂_same]
    exact fun t _ => ⟨rfl, rfl, (List.reverse_perm _).symm, (List.reverse_perm _).symm⟩

theorem importNetwork_reordered_junction :
    ∃ n m, (importNetwork junction.source ⟨.fail, .twoPass⟩).outcome = .ok n ∧
      (importNetwork junctionReversed.source ⟨.fail, .twoPass⟩).outcome = .ok m ∧
      n.SameRecords m ∧
      n.transit.toList.map (·.stations) = [[some 1, none, none]] ∧
      m.transit.toList.map (·.stations) = [[none, none, some 1]] ∧
      n.stats.unresolvedParents = 1 := by
  have hn : (importNetwork junction.source ⟨.fail, .twoPass⟩).outcome =
      .ok (junction.imported .twoPass) :=
    (outcome_importNetwork_fail_eq_ok_iff junction .twoPass _).mpr ⟨by decide +kernel, rfl⟩
  obtain ⟨m, hm, hsame⟩ := importNetwork_reordered reorders_junction hn
  obtain rfl := eq_imported_of_outcome_eq_ok junctionReversed .twoPass hm
  exact ⟨_, _, hn, hm, hsame, by decide +kernel, by decide +kernel, by decide +kernel⟩

end Multimodal
