import Multimodal.Proofs.Imported

/-!
# Rows that are all used

An import uses every row exactly if no id comes twice among the rows of a kind, networks apart, and
every row is valid (`MemoryRows.Sound`). Neither depends on the order of rows. An import that fails
at the first row it cannot use succeeds for exactly these rows.

* `usable_eq_self_iff`: the usable rows are all rows.
* `refusals_eq_nil_iff_sound`: no row is refused.
-/
namespace Multimodal

variable {ρ : Type}

/-! ## Keys that do not repeat -/

theorem firsts_sublist (key : ρ → RecordId) (rows : List ρ) : (firsts key rows).Sublist rows := by
  rw [firsts]
  refine (List.filter_sublist.map Prod.fst).trans ?_
  rw [List.zipIdx_map_fst]

theorem nodup_map_firsts (key : ρ → RecordId) (rows : List ρ) :
    ((firsts key rows).map key).Nodup := by
  induction rows with
  | nil => exact List.nodup_nil
  | cons row rest ih =>
    rw [firsts_cons, List.map_cons, List.nodup_cons]
    constructor
    · rw [List.mem_map]
      rintro ⟨other, hother, hsame⟩
      rw [List.mem_filter, bne_iff_ne] at hother
      exact hother.2 hsame
    · exact (List.filter_sublist.map key).nodup ih

theorem firsts_eq_self_iff (key : ρ → RecordId) (rows : List ρ) :
    firsts key rows = rows ↔ (rows.map key).Nodup := by
  constructor
  · intro h
    rw [← h]
    exact nodup_map_firsts key rows
  · intro h
    induction rows with
    | nil => rfl
    | cons row rest ih =>
      rw [List.map_cons, List.nodup_cons] at h
      rw [firsts_cons, ih h.2, List.filter_eq_self.mpr]
      intro other hother
      rw [bne_iff_ne]
      rintro hsame
      exact h.1 (hsame ▸ List.mem_map_of_mem hother)

theorem firsts_filter_eq_self_iff (key : ρ → RecordId) (valid : ρ → Bool) (rows : List ρ) :
    firsts key (rows.filter valid) = rows ↔
      (∀ row ∈ rows, valid row = true) ∧ (rows.map key).Nodup := by
  constructor
  · intro h
    have hfilter : rows.filter valid = rows := by
      apply List.filter_sublist.eq_of_length_le
      have hlen := (firsts_sublist key (rows.filter valid)).length_le
      rwa [h] at hlen
    rw [hfilter] at h
    exact ⟨List.filter_eq_self.mp hfilter, (firsts_eq_self_iff key rows).mp h⟩
  · rintro ⟨hvalid, hnodup⟩
    rw [List.filter_eq_self.mpr hvalid]
    exact (firsts_eq_self_iff key rows).mpr hnodup

/-! ## Sound rows -/

/-- Every row of a network can be used, `sections` being the ids of road sections. -/
structure TransitRows.Sound (sections : List RecordId) (t : TransitRows) : Prop where
  stopIds : (t.stops.map (·.id)).Nodup
  stops : ∀ row ∈ t.stops, row.isValid sections = true
  connections : ∀ row ∈ t.connections, row.isValid (t.stops.map (·.id)) = true

structure MemoryRows.Sound (rows : MemoryRows) : Prop where
  nodeIds : (rows.nodes.map (·.id)).Nodup
  sectionIds : (rows.sections.map (·.id)).Nodup
  sections : ∀ row ∈ rows.sections, row.isValid (rows.nodes.map (·.id)) = true
  networks : ∀ t ∈ rows.networks, t.Sound (rows.sections.map (·.id))

theorem validStops_eq_self {sections : List RecordId} {t : TransitRows} (h : t.Sound sections) :
    validStops sections t.stops = t.stops :=
  (firsts_filter_eq_self_iff _ _ _).mpr ⟨h.stops, h.stopIds⟩

theorem validTransit_eq_self_iff (sections : List RecordId) (t : TransitRows) :
    validTransit sections t = t ↔ t.Sound sections := by
  obtain ⟨id, name, stops, connections⟩ := t
  simp only [validTransit, TransitRows.mk.injEq, true_and]
  constructor
  · rintro ⟨hstops, hconnections⟩
    rw [hstops, List.filter_eq_self] at hconnections
    obtain ⟨hvalid, hnodup⟩ := (firsts_filter_eq_self_iff _ _ _).mp hstops
    exact ⟨hnodup, hvalid, hconnections⟩
  · intro h
    rw [validStops_eq_self h, List.filter_eq_self]
    exact ⟨rfl, h.connections⟩

theorem usable_eq_self_iff (rows : MemoryRows) : rows.usable = rows ↔ rows.Sound := by
  obtain ⟨nodes, sections, networks⟩ := rows
  simp only [MemoryRows.usable, MemoryRows.mk.injEq]
  constructor
  · rintro ⟨hnodes, hsections, hnetworks⟩
    obtain ⟨hvalid, hnodup⟩ := (firsts_filter_eq_self_iff _ _ _).mp hsections
    refine ⟨(firsts_eq_self_iff _ _).mp hnodes, hnodup, hvalid, ?_⟩
    rw [hsections] at hnetworks
    intro t ht
    rw [← validTransit_eq_self_iff]
    exact List.map_eq_map_iff.mp (hnetworks.trans (List.map_id networks).symm) t ht
  · intro h
    have hsections : firsts (·.id) (validSections nodes sections) = sections :=
      (firsts_filter_eq_self_iff _ _ _).mpr ⟨h.sections, h.sectionIds⟩
    refine ⟨(firsts_eq_self_iff _ _).mpr h.nodeIds, hsections, ?_⟩
    rw [hsections]
    exact (List.map_congr_left fun t ht =>
      (validTransit_eq_self_iff _ t).mpr (h.networks t ht)).trans (List.map_id networks)

theorem accepted_eq_self_of_refusals_eq_nil {linking : StationLinking} {rows : MemoryRows}
    (h : rows.refusals linking = []) : rows.accepted linking = rows := by
  simp only [MemoryRows.refusals, MemoryRows.transitRefusals, List.append_eq_nil_iff,
    List.flatMap_eq_nil_iff] at h
  obtain ⟨⟨hnodes, hsections⟩, hstops, hconnections⟩ := h
  obtain ⟨nodes, sections, networks⟩ := rows
  simp only [MemoryRows.accepted, MemoryRows.mk.injEq]
  refine ⟨accepted_eq_of_refusals_eq_nil _ hnodes, accepted_eq_of_refusals_eq_nil _ hsections, ?_⟩
  refine (List.map_congr_left fun t ht => ?_).trans (List.map_id networks)
  obtain ⟨id, name, stops, connections⟩ := t
  simp only [TransitRows.accepted, id_eq, TransitRows.mk.injEq, true_and]
  exact ⟨accepted_eq_of_refusals_eq_nil _ (hstops _ ht),
    accepted_eq_of_refusals_eq_nil _ (hconnections _ ht)⟩

/-- No row is refused exactly if all can be used. -/
theorem refusals_eq_nil_iff_sound (linking : StationLinking) (rows : MemoryRows) :
    rows.refusals linking = [] ↔ rows.Sound := by
  rw [← usable_eq_self_iff, ← rows.accepted_eq_usable linking]
  constructor
  · exact accepted_eq_self_of_refusals_eq_nil
  · intro h
    have hnone := rows.refusals_accepted linking
    rwa [h] at hnone

end Multimodal
