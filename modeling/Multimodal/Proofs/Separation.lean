import Multimodal.Proofs.Imported

/-!
# Public transport networks do not influence each other

An import of several public transport networks is put together from imports of the same roads with
one network each: the roads are the same in all of them, each network is the one made alone, and
what is counted in the networks adds up.

* `MemoryRows.refusals_eq_nil_iff_only`: no row is refused exactly if none is in the parts.
* `MemoryRows.joins_imported`: the whole is put together from its parts.
* `importNetwork_networks_apart`: so are the outcomes of imports, whatever the options.
-/
namespace Multimodal

/-- The same roads with other public transport networks. -/
def MemoryRows.only (rows : MemoryRows) (networks : List TransitRows) : MemoryRows :=
  { rows with networks }

/-- Two networks have the same roads and the same account of them. -/
structure Network.SameRoads (n m : Network) : Prop where
  road : n.road = m.road
  nodeIndex : n.nodeIndex = m.nodeIndex
  sectionIndex : n.sectionIndex = m.sectionIndex
  skippedNodes : n.stats.skippedNodes = m.stats.skippedNodes
  skippedSections : n.stats.skippedSections = m.stats.skippedSections

/-- A network is put together from a bare one, which has roads only, and from parts, which have one
public transport network each. -/
structure Network.Joins (whole bare : Network) (parts : List Network) : Prop where
  noTransit : bare.transit = #[]
  roads : ∀ n ∈ whole :: parts, n.SameRoads bare
  transit : List.Forall₂ (fun network part => part.transit = #[network]) whole.transit.toList parts
  skippedStops : whole.stats.skippedStops = totalOf (·.stats.skippedStops) parts
  skippedConnections : whole.stats.skippedConnections = totalOf (·.stats.skippedConnections) parts
  unresolvedParents : whole.stats.unresolvedParents = totalOf (·.stats.unresolvedParents) parts

namespace MemoryRows

variable (linking : StationLinking) (rows : MemoryRows)

theorem sameRoads_imported_only (networks others : List TransitRows) :
    ((rows.only networks).imported linking).SameRoads ((rows.only others).imported linking) :=
  ⟨rfl, rfl, rfl, rfl, rfl⟩

/-- No row is refused exactly if no road is, and no row of any network alone. -/
theorem refusals_eq_nil_iff_only :
    rows.refusals linking = [] ↔
      (rows.only []).refusals linking = [] ∧
        ∀ t ∈ rows.networks, (rows.only [t]).refusals linking = [] := by
  simp only [refusals, transitRefusals, only, roads, List.append_eq_nil_iff, List.flatMap_nil,
    List.flatMap_cons, List.append_nil, List.flatMap_eq_nil_iff]
  constructor
  · rintro ⟨hroads, hstops, hconnections⟩
    exact ⟨hroads, fun t ht => ⟨hroads, hstops t ht, hconnections t ht⟩⟩
  · rintro ⟨hroads, hparts⟩
    exact ⟨hroads, fun t ht => (hparts t ht).2.1, fun t ht => (hparts t ht).2.2⟩

/-- The network of an import is put together from those of its parts. -/
theorem joins_imported :
    (rows.imported linking).Joins ((rows.only []).imported linking)
      (rows.networks.map fun t => (rows.only [t]).imported linking) where
  noTransit := rfl
  roads := by
    intro n hn
    obtain rfl | ⟨t, -, rfl⟩ := by simpa using hn
    · exact rows.sameRoads_imported_only linking rows.networks []
    · exact rows.sameRoads_imported_only linking [t] []
  transit := by
    simp only [imported, only, List.map_cons, List.map_nil]
    rw [List.forall₂_map_left_iff, List.forall₂_map_right_iff, List.forall₂_same]
    intro t _
    rfl
  skippedStops := by
    rw [totalOf_map]
    simp only [imported, account, ← totalOf_length]
    simp [only, roads, totalOf]
  skippedConnections := by
    rw [totalOf_map]
    simp only [imported, account, ← totalOf_length]
    simp [only, roads, totalOf]
  unresolvedParents := by
    rw [totalOf_map]
    simp [imported, account, only, roads, totalOf]

end MemoryRows

/-- The outcome of an import of several public transport networks follows from those of imports of
the same roads without any and with one each. It succeeds exactly if they all do, which they do when
rows are skipped, and its network is put together from theirs. -/
theorem importNetwork_networks_apart (rows : MemoryRows) (options : ImportOptions) :
    (options.onRowError = .skip →
        ∃ whole, (importNetwork rows.source options).outcome = .ok whole) ∧
      ((∃ whole, (importNetwork rows.source options).outcome = .ok whole) ↔
        (∃ bare, (importNetwork (rows.only []).source options).outcome = .ok bare) ∧
          ∀ t ∈ rows.networks,
            ∃ part, (importNetwork (rows.only [t]).source options).outcome = .ok part) ∧
      ∀ whole bare parts, (importNetwork rows.source options).outcome = .ok whole →
        (importNetwork (rows.only []).source options).outcome = .ok bare →
        List.Forall₂ (fun t part =>
          (importNetwork (rows.only [t]).source options).outcome = .ok part) rows.networks parts →
        whole.Joins bare parts := by
  refine ⟨?_, ?_, ?_⟩
  · rintro hskip
    rw [outcome_importNetwork_source, exists_settle_eq_ok_iff]
    exact .inl hskip
  · simp only [outcome_importNetwork_source, exists_settle_eq_ok_iff,
      rows.refusals_eq_nil_iff_only options.stationLinking]
    by_cases hskip : options.onRowError = .skip
    · simp [hskip]
    · simp [hskip]
  · intro whole bare parts hwhole hbare hparts
    obtain rfl := eq_imported_of_outcome_eq_ok rows _ hwhole
    obtain rfl := eq_imported_of_outcome_eq_ok (rows.only []) _ hbare
    have hsame : parts =
        rows.networks.map fun t => (rows.only [t]).imported options.stationLinking := by
      rw [← List.forall₂_eq_eq_eq, List.forall₂_map_right_iff]
      exact (hparts.imp fun t part hpart => eq_imported_of_outcome_eq_ok _ _ hpart).flip
    rw [hsame]
    exact rows.joins_imported options.stationLinking

theorem importNetwork_networks_apart_detour :
    ∃ whole bare parts, (importNetwork detour.source ⟨.skip, .twoPass⟩).outcome = .ok whole ∧
      (importNetwork (detour.only []).source ⟨.skip, .twoPass⟩).outcome = .ok bare ∧
      List.Forall₂ (fun t part =>
        (importNetwork (detour.only [t]).source ⟨.skip, .twoPass⟩).outcome = .ok part)
        detour.networks parts ∧
      whole.Joins bare parts ∧
      parts.map (fun n => (n.stats.skippedStops, n.stats.skippedConnections)) =
        [(1, 1), (0, 1)] := by
  have hwhole := outcome_importNetwork_skip detour .twoPass
  have hbare := outcome_importNetwork_skip (detour.only []) .twoPass
  have hparts : List.Forall₂ (fun t part =>
      (importNetwork (detour.only [t]).source ⟨.skip, .twoPass⟩).outcome = .ok part)
      detour.networks (detour.networks.map fun t => (detour.only [t]).imported .twoPass) := by
    rw [List.forall₂_map_right_iff, List.forall₂_same]
    exact fun t _ => outcome_importNetwork_skip (detour.only [t]) .twoPass
  exact ⟨_, _, _, hwhole, hbare, hparts,
    (importNetwork_networks_apart detour ⟨.skip, .twoPass⟩).2.2 _ _ _ hwhole hbare hparts,
    by decide +kernel⟩

end Multimodal
