import Multimodal.Proofs.Lookups

/-!
# More rows

An import that skips is not monotone row by row: a node row that is added can make an earlier
section row usable, which then takes its id from a later row. Told by ids, nothing is lost. The ids
of nodes only grow, so the valid section rows do, hence the ids of sections, and so on through the
stops to the connections, which have no id to lose.

* `MemoryRows.PartOf.usable_networks`: the ids and the usable connection rows grow with the rows.
* `importNetwork_more_rows`: so do the ids and the connections of the imported networks.
-/
namespace Multimodal

/-! ## Validity against more ids -/

section
variable {ids others : List RecordId} (h : ids ⊆ others)
include h

theorem SectionRow.isValid_mono {row : SectionRow} (hvalid : row.isValid ids = true) :
    row.isValid others = true := by
  simp only [isValid, Bool.and_eq_true, List.contains_iff_mem] at hvalid ⊢
  obtain ⟨⟨⟨hfrom, hto⟩, hclass⟩, hlength⟩ := hvalid
  exact ⟨⟨⟨h hfrom, h hto⟩, hclass⟩, hlength⟩

theorem StopRow.isValid_mono {row : StopRow} (hvalid : row.isValid ids = true) :
    row.isValid others = true := by
  simp only [isValid, Bool.and_eq_true, List.contains_iff_mem] at hvalid ⊢
  exact ⟨hvalid.1, h hvalid.2⟩

theorem ConnectionRow.isValid_mono {row : ConnectionRow} (hvalid : row.isValid ids = true) :
    row.isValid others = true := by
  simp only [isValid, Bool.and_eq_true, List.contains_iff_mem] at hvalid ⊢
  exact ⟨h hvalid.1, h hvalid.2⟩

end

/-- What passes a test is among more that passes a weaker one. -/
theorem filter_sublist_filter {α : Type} {p q : α → Bool} {xs ys : List α} (h : xs.Sublist ys)
    (hpq : ∀ x, p x = true → q x = true) : (xs.filter p).Sublist (ys.filter q) :=
  (h.filter p).trans (List.monotone_filter_right ys hpq)

theorem map_firsts_subset {ρ : Type} {key : ρ → RecordId} {xs ys : List ρ} (h : xs.Sublist ys) :
    (firsts key xs).map key ⊆ (firsts key ys).map key := by
  intro id hid
  rw [mem_map_firsts] at hid ⊢
  exact (h.map key).subset hid

/-! ## Rows among more rows -/

/-- The rows of a network are among those of another. -/
structure TransitRows.PartOf (t u : TransitRows) : Prop where
  stops : t.stops.Sublist u.stops
  connections : t.connections.Sublist u.connections

/-- Rows are among others, network by network, with any rows put between them. -/
structure MemoryRows.PartOf (rows more : MemoryRows) : Prop where
  nodes : rows.nodes.Sublist more.nodes
  sections : rows.sections.Sublist more.sections
  networks : List.Forall₂ TransitRows.PartOf rows.networks more.networks

/-- What an import uses of rows is kept by what it uses of more: all ids and all connection rows. -/
structure TransitRows.KeptBy (t u : TransitRows) : Prop where
  stopIds : t.stops.map (·.id) ⊆ u.stops.map (·.id)
  connections : t.connections.Sublist u.connections

theorem TransitRows.PartOf.validTransit {t u : TransitRows} (h : t.PartOf u)
    {ids others : List RecordId} (hids : ids ⊆ others) :
    (Multimodal.validTransit ids t).KeptBy (Multimodal.validTransit others u) := by
  have hstops : (Multimodal.validTransit ids t).stops.map (·.id) ⊆
      (Multimodal.validTransit others u).stops.map (·.id) :=
    map_firsts_subset (filter_sublist_filter h.stops fun _ => StopRow.isValid_mono hids)
  exact ⟨hstops, filter_sublist_filter h.connections fun _ => ConnectionRow.isValid_mono hstops⟩

namespace MemoryRows

variable {rows more : MemoryRows} (h : rows.PartOf more)
include h

theorem PartOf.nodeIds : rows.usable.nodes.map (·.id) ⊆ more.usable.nodes.map (·.id) :=
  map_firsts_subset h.nodes

theorem PartOf.sectionIds : rows.usable.sections.map (·.id) ⊆ more.usable.sections.map (·.id) := by
  have hids : rows.nodes.map (·.id) ⊆ more.nodes.map (·.id) := (h.nodes.map (·.id)).subset
  exact map_firsts_subset (filter_sublist_filter h.sections fun _ => SectionRow.isValid_mono hids)

theorem PartOf.usable_networks :
    List.Forall₂ TransitRows.KeptBy rows.usable.networks more.usable.networks := by
  simp only [usable, List.forall₂_map_left_iff, List.forall₂_map_right_iff]
  exact h.networks.imp fun _ _ htu => htu.validTransit h.sectionIds

end MemoryRows

/-! ## The ids of an imported network -/

namespace MemoryRows

variable (rows : MemoryRows) (linking : StationLinking)

theorem isSome_node?_imported (id : RecordId) :
    ((rows.imported linking).node? id).isSome = true ↔ id ∈ rows.usable.nodes.map (·.id) := by
  have hroads := rows.holdsRoads_imported linking
  rw [(Network.registered_imported rows linking).finds_node?.isSome_iff, List.mem_iff_getElem?]
  exact exists_congr fun handle => by rw [← hroads.nodeIdAt?_eq]; rfl

theorem isSome_section?_imported (id : RecordId) :
    ((rows.imported linking).section? id).isSome = true ↔
      id ∈ rows.usable.sections.map (·.id) := by
  have hroads := rows.holdsRoads_imported linking
  rw [(Network.registered_imported rows linking).finds_section?.isSome_iff,
    List.mem_iff_getElem?]
  exact exists_congr fun handle => by
    rw [← hroads.sectionIdAt?_eq, Network.sectionAt?, Option.map_map]; rfl

theorem isSome_stop?_imported (place : Nat) (id : RecordId) :
    ((rows.imported linking).stop? place id).isSome = true ↔
      ∃ t, rows.usable.networks[place]? = some t ∧ id ∈ t.stops.map (·.id) := by
  rw [((Network.registered_imported rows linking).finds_stop? place).isSome_iff,
    rows.networks_usable]
  simp only [Network.stopAt?, rows.transit_imported]
  cases rows.networks[place]? with
  | none => simp
  | some t =>
    have hholds := holds_importedTransit rows.holdsRoads_roads.sectionIndex linking t
    simp only [Option.map_some, Option.bind_eq_bind, Option.bind_some, Option.some.injEq,
      exists_eq_left', List.mem_iff_getElem?]
    exact exists_congr fun handle => by rw [← hholds.stopIdAt?_eq]; rfl

theorem connectionRecords_imported {place : Nat} {t : TransitNetwork}
    (ht : (rows.imported linking).transit[place]? = some t) :
    ∃ kept, rows.usable.networks[place]? = some kept ∧
      t.connectionRecords = kept.connections.map ConnectionRow.record := by
  rw [rows.transit_imported, Option.map_eq_some_iff] at ht
  obtain ⟨given, hgiven, rfl⟩ := ht
  exact ⟨_, by rw [rows.networks_usable, hgiven]; rfl,
    (holds_importedTransit rows.holdsRoads_roads.sectionIndex linking given).connectionRecords_eq⟩

end MemoryRows

/-! ## The result -/

/-- `m` has all ids of `n`, of nodes, of sections and of the stops of each public transport network,
and each of its public transport networks has all connections of the one in `n`. -/
structure Network.KeptBy (n m : Network) : Prop where
  nodes : ∀ id, (n.node? id).isSome → (m.node? id).isSome
  sections : ∀ id, (n.section? id).isSome → (m.section? id).isSome
  stops : ∀ place id, (n.stop? place id).isSome → (m.stop? place id).isSome
  connections : ∀ (place : Nat) (t : TransitNetwork), n.transit[place]? = some t →
    ∃ u, m.transit[place]? = some u ∧ t.connectionRecords.Sublist u.connectionRecords ∧
      t.connectionCount ≤ u.connectionCount

theorem length_connectionRecords (t : TransitNetwork) :
    t.connectionRecords.length = t.connectionCount := by
  simp [TransitNetwork.connectionRecords, TransitNetwork.connectionCount, Digraph.size]

/-- The network imported from rows is kept by the network imported from more. -/
theorem MemoryRows.PartOf.imported {rows more : MemoryRows} (h : rows.PartOf more)
    (linking other : StationLinking) :
    (rows.imported linking).KeptBy (more.imported other) where
  nodes := by
    intro id hid
    rw [isSome_node?_imported] at hid ⊢
    exact h.nodeIds hid
  sections := by
    intro id hid
    rw [isSome_section?_imported] at hid ⊢
    exact h.sectionIds hid
  stops := by
    intro place id hid
    rw [isSome_stop?_imported] at hid ⊢
    obtain ⟨t, ht, hmem⟩ := hid
    obtain ⟨u, hu, htu⟩ := exists_related_of_forall₂ h.usable_networks ht
    exact ⟨u, hu, htu.stopIds hmem⟩
  connections := by
    intro place t ht
    obtain ⟨kept, hkept, hrecords⟩ := connectionRecords_imported rows linking ht
    obtain ⟨keptMore, hmore, hboth⟩ := exists_related_of_forall₂ h.usable_networks hkept
    obtain ⟨u, hu, -⟩ := (more.hasTransit_imported other).network place keptMore hmore
    obtain ⟨same, hsame, hmoreRecords⟩ := connectionRecords_imported more other hu
    obtain rfl := Option.some.inj (hmore.symm.trans hsame)
    have hsublist : t.connectionRecords.Sublist u.connectionRecords := by
      rw [hrecords, hmoreRecords]
      exact hboth.connections.map ConnectionRow.record
    refine ⟨u, hu, hsublist, ?_⟩
    rw [← length_connectionRecords, ← length_connectionRecords]
    exact hsublist.length_le

/-- Rows put anywhere between the rows of an import that skips take no id and no connection away. Of
each public transport network all connection rows that were accepted are accepted again. -/
theorem importNetwork_more_rows {rows more : MemoryRows} (h : rows.PartOf more)
    (linking other : StationLinking) :
    ∃ n m, (importNetwork rows.source ⟨.skip, linking⟩).outcome = .ok n ∧
      (importNetwork more.source ⟨.skip, other⟩).outcome = .ok m ∧ n.KeptBy m ∧
      List.Forall₂ (fun t u => t.connections.Sublist u.connections)
        (rows.accepted linking).networks (more.accepted other).networks := by
  refine ⟨_, _, outcome_importNetwork_skip rows linking, outcome_importNetwork_skip more other,
    h.imported linking other, ?_⟩
  rw [rows.accepted_eq_usable, more.accepted_eq_usable]
  exact h.usable_networks.imp fun _ _ hboth => hboth.connections

/-- The rows of `detour` and the node to which its first section leads. -/
def detourOpened : MemoryRows := { detour with nodes := { id := 9 } :: detour.nodes }

/-- In `detourOpened` the first section row takes the id 7 from the second, which `detour` uses. -/
theorem importNetwork_more_rows_detourOpened :
    ∃ n m, (importNetwork detour.source ⟨.skip, .singlePass⟩).outcome = .ok n ∧
      (importNetwork detourOpened.source ⟨.skip, .twoPass⟩).outcome = .ok m ∧ n.KeptBy m ∧
      n.findSection 7 ≠ m.findSection 7 := by
  have hpart : detour.PartOf detourOpened :=
    ⟨List.sublist_cons_self _ _, .refl _, List.forall₂_same.mpr fun t _ => ⟨.refl _, .refl _⟩⟩
  obtain ⟨n, m, hn, hm, hkept, -⟩ := importNetwork_more_rows hpart .singlePass .twoPass
  refine ⟨n, m, hn, hm, hkept, ?_⟩
  obtain rfl := Except.ok.inj ((outcome_importNetwork_skip detour .singlePass).symm.trans hn)
  obtain rfl := Except.ok.inj ((outcome_importNetwork_skip detourOpened .twoPass).symm.trans hm)
  intro hsame
  have htargets := congrArg (Option.map (·.target)) hsame
  revert htargets
  decide +kernel

end Multimodal
