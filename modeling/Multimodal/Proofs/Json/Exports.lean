import Multimodal.Proofs.Json.Itineraries
import Multimodal.Proofs.RelatedLists

/-!
# What an encoded itinerary holds

The parts of an encoded itinerary can all be used (`isReadable_ofItineraryWith`), and its numbers
are such as a text can hold, the times and costs of its legs aside (`isSaneOr_ofItineraryWith`). How
deeply it nests is decided by the attributes of its trace (`depth_ofItineraryWith_le`).
-/
namespace Multimodal

namespace Json

/-! ## Numbers -/

theorem isSane_ofInt64 (n : Int64) : ∀ leaf ∈ (ofInt64 n).leaves, IsSane leaf := by
  have hlow := n.le_toInt
  have hhigh := n.toInt_lt
  simp only [ofInt64, leaves, List.forall_mem_singleton, IsSane, keepsInteger, decide_eq_true_eq]
  omega

theorem isSane_ofNat {n : Nat} (h : n < 2 ^ 64) : ∀ leaf ∈ (ofNat n).leaves, IsSane leaf := by
  simp only [ofNat, leaves, List.forall_mem_singleton, IsSane, keepsInteger, decide_eq_true_eq]
  omega

theorem isSane_str (s : String) : ∀ leaf ∈ (Json.str s).leaves, IsSane leaf := by
  simp only [leaves, List.forall_mem_singleton, IsSane]

mutual

theorem isSane_of_isPlain : ∀ {v : Json}, v.isPlain = true → ∀ leaf ∈ v.leaves, IsSane leaf
  | .null, _ => List.forall_mem_singleton.mpr trivial
  | .bool _, _ => List.forall_mem_singleton.mpr trivial
  | .int _, h => List.forall_mem_singleton.mpr h
  | .real _, h => List.forall_mem_singleton.mpr h
  | .str _, _ => List.forall_mem_singleton.mpr trivial
  | .arr _, h => itemsSane_of_arePlain h
  | .obj members, h => by
    rw [isPlain, Bool.and_eq_true] at h
    exact membersSane_of_membersPlain h.2

theorem itemsSane_of_arePlain : ∀ {items : List Json}, arePlain items = true →
    ∀ leaf ∈ itemsLeaves items, IsSane leaf
  | [], _ => nofun
  | item :: rest, h => by
    rw [arePlain, Bool.and_eq_true] at h
    exact List.forall_mem_append.mpr ⟨isSane_of_isPlain h.1, itemsSane_of_arePlain h.2⟩

theorem membersSane_of_membersPlain : ∀ {members : List (String × Json)},
    membersPlain members = true → ∀ leaf ∈ membersLeaves members, IsSane leaf
  | [], _ => nofun
  | (name, value) :: rest, h => by
    rw [membersPlain, Bool.and_eq_true] at h
    exact List.forall_mem_append.mpr ⟨isSane_of_isPlain h.1, membersSane_of_membersPlain h.2⟩

end

theorem isSane_ofVertex (v : Vertex) : ∀ leaf ∈ (ofVertex v).leaves, IsSane leaf := by
  cases v with
  | road node =>
    have := node.toNat_lt
    simp only [ofVertex, leaves, membersLeaves, List.append_nil]
    exact isSane_ofNat (by omega)
  | transit network stop =>
    have := network.toNat_lt
    have := stop.toNat_lt
    simp only [ofVertex, leaves, membersLeaves, List.append_nil, List.forall_mem_append]
    exact ⟨isSane_ofNat (by omega), isSane_ofNat (by omega)⟩

theorem isSane_ofEdge (e : Edge) : ∀ leaf ∈ (ofEdge e).leaves, IsSane leaf := by
  simp only [ofEdge, leaves, membersLeaves, List.append_nil, List.forall_mem_append]
  exact ⟨isSane_ofVertex e.source, isSane_ofVertex e.target⟩

theorem isSane_ofDistance (d : TraversedDistance) :
    ∀ leaf ∈ (ofDistance d).leaves, IsSane leaf := by
  cases d with
  | km distance =>
    have hvalid := distance.valid
    rw [isLength, Bool.and_eq_true] at hvalid
    simp only [ofDistance, leaves, membersLeaves, List.append_nil, List.forall_mem_singleton]
    exact hvalid.1
  | untilSectionEnd => exact isSane_str _

theorem isSane_ofTraceEdge (e : TraceEdge) : ∀ leaf ∈ (ofTraceEdge e).leaves, IsSane leaf := by
  have hattributes := isSane_of_isPlain e.attributes.plain
  simp only [ofTraceEdge, leaves, membersLeaves, List.append_nil,
    List.forall_mem_append] at hattributes ⊢
  exact ⟨isSane_ofEdge e.edge, hattributes⟩

end Json

def LegKind.times : LegKind → List Float
  | .transit leg => [leg.wait, leg.departureTime, leg.arrivalTime]
  | _ => []

/-- What was measured for a leg: its times and its costs. -/
def Leg.measures (leg : Leg Float) : List Float := leg.kind.times ++ leg.costs.toList.map (·.2)

namespace Itinerary

/-- What was measured for an itinerary: the times and the costs of its legs. -/
def measures (it : Itinerary Float) : List Float := it.legs.flatMap (·.measures)

/-- The distances that road legs follow their sections. -/
def distances (it : Itinerary Float) : List Float :=
  it.legs.filterMap fun leg =>
    match leg.kind with
    | .road road => road.distance.km?
    | _ => none

end Itinerary

namespace Json

/-- A part of an encoding is a number that a text can hold, or it was measured. -/
def IsSaneOr (measures : List Float) (leaf : Json) : Prop :=
  IsSane leaf ∨ ∃ x ∈ measures, leaf = .real x

section Leaves

variable {measures more : List Float} {v : Json}

theorem isSaneOr_of_isSane (h : ∀ leaf ∈ v.leaves, IsSane leaf) :
    ∀ leaf ∈ v.leaves, IsSaneOr measures leaf := fun leaf hleaf => .inl (h leaf hleaf)

theorem isSaneOr_of_subset (h : ∀ leaf ∈ v.leaves, IsSaneOr measures leaf)
    (hmore : ∀ x ∈ measures, x ∈ more) : ∀ leaf ∈ v.leaves, IsSaneOr more leaf :=
  fun leaf hleaf => (h leaf hleaf).imp_right fun ⟨x, hx, heq⟩ => ⟨x, hmore x hx, heq⟩

theorem isSaneOr_real {x : Float} (h : x ∈ measures) :
    ∀ leaf ∈ (Json.real x).leaves, IsSaneOr measures leaf :=
  List.forall_mem_singleton.mpr (.inr ⟨x, h, rfl⟩)

end Leaves

theorem isSaneOr_ofLegKind (kind : LegKind) :
    ∀ leaf ∈ (ofLegKind kind).leaves, IsSaneOr kind.times leaf := by
  cases kind with
  | road leg =>
    simp only [ofLegKind, legMembers, leaves, membersLeaves, List.append_nil,
      List.forall_mem_append]
    exact ⟨isSaneOr_of_isSane (isSane_str _), isSaneOr_of_isSane (isSane_ofInt64 _),
      isSaneOr_of_isSane (isSane_str _), isSaneOr_of_isSane (isSane_ofDistance _),
      isSaneOr_of_isSane (isSane_str _)⟩
  | transit leg =>
    simp only [ofLegKind, legMembers, leaves, membersLeaves, List.append_nil,
      List.forall_mem_append]
    exact ⟨isSaneOr_of_isSane (isSane_str _), isSaneOr_of_isSane (isSane_ofInt64 _),
      isSaneOr_real (by simp [LegKind.times]), isSaneOr_real (by simp [LegKind.times]),
      isSaneOr_real (by simp [LegKind.times]), isSaneOr_of_isSane (isSane_ofInt64 _),
      isSaneOr_of_isSane (isSane_ofInt64 _), isSaneOr_of_isSane (isSane_str _),
      isSaneOr_of_isSane (isSane_ofInt64 _), isSaneOr_of_isSane (isSane_str _),
      isSaneOr_of_isSane (isSane_str _)⟩
  | transfer leg =>
    simp only [ofLegKind, legMembers, leaves, membersLeaves, List.append_nil,
      List.forall_mem_append]
    exact ⟨isSaneOr_of_isSane (isSane_str _), isSaneOr_of_isSane (isSane_ofEdge _),
      isSaneOr_of_isSane (isSane_ofInt64 _), isSaneOr_of_isSane (isSane_str _),
      isSaneOr_of_isSane (isSane_str _)⟩

theorem isSaneOr_ofCostEntries (entries : List (Criterion × Float)) :
    ∀ leaf ∈ (ofCostEntries entries).leaves, IsSaneOr (entries.map (·.2)) leaf := by
  intro leaf hleaf
  rw [ofCostEntries_eq, leaves, mem_membersLeaves] at hleaf
  obtain ⟨m, hm, hleaf⟩ := hleaf
  obtain ⟨cost, hcost, rfl⟩ := List.mem_map.mp hm
  exact isSaneOr_real (List.mem_map_of_mem hcost) leaf hleaf

theorem isSane_ofGeometry (geometry : Option (List UInt8)) :
    ∀ leaf ∈ (ofOption ofOctets geometry).leaves, IsSane leaf := by
  cases geometry with
  | none => exact List.forall_mem_singleton.mpr trivial
  | some octets =>
    intro leaf hleaf
    rw [ofOption, ofOctets, ofList, leaves, mem_itemsLeaves] at hleaf
    obtain ⟨item, hitem, hleaf⟩ := hleaf
    obtain ⟨octet, -, rfl⟩ := List.mem_map.mp hitem
    have := octet.toNat_lt
    exact isSane_ofNat (by omega) leaf hleaf

theorem isSaneOr_ofLegWith {leg : Leg Float} {entries : List (Criterion × Float)}
    (h : entries.Perm leg.costs.toList) :
    ∀ leaf ∈ (ofLegWith entries leg).leaves, IsSaneOr leg.measures leaf := by
  simp only [ofLegWith, leaves, membersLeaves, List.append_nil, List.forall_mem_append]
  exact ⟨isSaneOr_of_subset (isSaneOr_ofLegKind leg.kind) fun x => List.mem_append_left _,
    isSaneOr_of_subset (isSaneOr_ofCostEntries entries) fun x hx =>
      List.mem_append_right _ ((h.map _).mem_iff.mp hx),
    isSaneOr_of_isSane (isSane_ofInt64 _), isSaneOr_of_isSane (isSane_ofGeometry _)⟩

section
variable {legs : List (Leg Float)} {visits : List (List (Criterion × Float))}
  (h : Itinerary.Visits legs visits)
include h

/-- The legs of an encoding are those of the itinerary, each with its costs in some order. -/
theorem exists_leg_of_mem_zipWith {item : Json} (hitem : item ∈ visits.zipWith ofLegWith legs) :
    ∃ leg ∈ legs, ∃ entries, entries.Perm leg.costs.toList ∧ ofLegWith entries leg = item := by
  obtain ⟨place, hplace⟩ := List.mem_iff_getElem?.mp hitem
  obtain ⟨entries, leg, hentries, hleg, rfl⟩ := List.getElem?_zipWith_eq_some.mp hplace
  obtain ⟨found, hfound, hperm⟩ := exists_related_of_forall₂ h hleg
  obtain rfl : entries = found := by simpa [hentries] using hfound
  exact ⟨leg, List.mem_of_getElem? hleg, entries, hperm, rfl⟩

theorem exists_entries_of_mem {leg : Leg Float} (hleg : leg ∈ legs) :
    ∃ entries, entries.Perm leg.costs.toList ∧
      ofLegWith entries leg ∈ visits.zipWith ofLegWith legs := by
  obtain ⟨place, hplace⟩ := List.mem_iff_getElem?.mp hleg
  obtain ⟨entries, hentries, hperm⟩ := exists_related_of_forall₂ h hplace
  have hitem : (visits.zipWith ofLegWith legs)[place]? = some (ofLegWith entries leg) :=
    List.getElem?_zipWith_eq_some.mpr ⟨entries, leg, hentries, hplace, rfl⟩
  exact ⟨entries, hperm, List.mem_of_getElem? hitem⟩

end

theorem isSane_ofTrace (trace : Option (List TraceEdge)) :
    ∀ leaf ∈ (ofOption (ofList ofTraceEdge) trace).leaves, IsSane leaf := by
  cases trace with
  | none => exact List.forall_mem_singleton.mpr trivial
  | some edges =>
    intro leaf hleaf
    rw [ofOption, ofList, leaves, mem_itemsLeaves] at hleaf
    obtain ⟨item, hitem, hleaf⟩ := hleaf
    obtain ⟨e, -, rfl⟩ := List.mem_map.mp hitem
    exact isSane_ofTraceEdge e leaf hleaf

/-- Every number of an encoded itinerary is one that a text can hold, or a time or cost of a leg. -/
theorem isSaneOr_ofItineraryWith {it : Itinerary Float} {visits : List (List (Criterion × Float))}
    (h : Itinerary.Visits it.legs visits) :
    ∀ leaf ∈ (ofItineraryWith visits it).leaves, IsSaneOr it.measures leaf := by
  have hlegs : ∀ leaf ∈ (Json.arr (visits.zipWith ofLegWith it.legs)).leaves,
      IsSaneOr it.measures leaf := by
    intro leaf hleaf
    rw [leaves, mem_itemsLeaves] at hleaf
    obtain ⟨item, hitem, hleaf⟩ := hleaf
    obtain ⟨leg, hleg, entries, hentries, rfl⟩ := exists_leg_of_mem_zipWith h hitem
    exact isSaneOr_of_subset (isSaneOr_ofLegWith hentries)
      (fun x hx => List.mem_flatMap.mpr ⟨leg, hleg, hx⟩) leaf hleaf
  simp only [ofItineraryWith, ofItineraryAround, leaves, membersLeaves, List.append_nil,
    List.forall_mem_append]
  rw [leaves] at hlegs
  exact ⟨hlegs, isSaneOr_of_isSane (isSane_str _), isSaneOr_of_isSane (isSane_ofTrace _)⟩

/-! ## Nesting -/

theorem depth_ofVertex_le (v : Vertex) : (ofVertex v).depth ≤ 2 := by
  cases v <;> simp only [ofVertex, ofNat, depth, membersDepth] <;> omega

theorem depth_ofEdge_le (e : Edge) : (ofEdge e).depth ≤ 3 := by
  have hsource := depth_ofVertex_le e.source
  have htarget := depth_ofVertex_le e.target
  simp only [ofEdge, depth, membersDepth]
  omega

theorem depth_ofDistance_le (d : TraversedDistance) : (ofDistance d).depth ≤ 1 := by
  cases d <;> exact Nat.le_of_ble_eq_true rfl

theorem depth_ofLegKind_le (kind : LegKind) : (ofLegKind kind).depth ≤ 4 := by
  cases kind with
  | road leg =>
    have := depth_ofDistance_le leg.distance
    simp only [ofLegKind, ofLegType, legMembers, ofInt64, ofMovement, depth, membersDepth]
    omega
  | transit leg =>
    simp only [ofLegKind, ofLegType, legMembers, ofInt64, depth, membersDepth]
    omega
  | transfer leg =>
    have := depth_ofEdge_le leg.edge
    simp only [ofLegKind, ofLegType, legMembers, ofInt64, depth, membersDepth]
    omega

theorem depth_ofCostEntries_le (entries : List (Criterion × Float)) :
    (ofCostEntries entries).depth ≤ 1 := by
  have hvalues : membersDepth (entries.map fun cost => (cost.1.name, Json.real cost.2)) ≤ 0 := by
    refine membersDepth_le_iff.mpr fun m hm => ?_
    obtain ⟨cost, -, rfl⟩ := List.mem_map.mp hm
    exact Nat.le_refl 0
  rw [ofCostEntries_eq, depth]
  omega

theorem depth_ofGeometry_le (geometry : Option (List UInt8)) :
    (ofOption ofOctets geometry).depth ≤ 1 := by
  cases geometry with
  | none => exact Nat.zero_le 1
  | some octets =>
    have hoctets : itemsDepth (octets.map fun octet => ofNat octet.toNat) ≤ 0 := by
      refine itemsDepth_le_iff.mpr fun item hitem => ?_
      obtain ⟨octet, -, rfl⟩ := List.mem_map.mp hitem
      exact Nat.le_refl 0
    rw [ofOption, ofOctets, ofList, depth]
    omega

theorem depth_ofLegWith_le (entries : List (Criterion × Float)) (leg : Leg Float) :
    (ofLegWith entries leg).depth ≤ 5 := by
  have hkind := depth_ofLegKind_le leg.kind
  have hcosts := depth_ofCostEntries_le entries
  have hgeometry := depth_ofGeometry_le leg.geometry
  simp only [ofLegWith, ofInt64, depth, membersDepth]
  omega

/-- An encoded itinerary nests three levels deeper than the attributes of its trace, and never less
than a place in a transfer leg makes necessary. -/
theorem depth_ofItineraryWith_le {it : Itinerary Float}
    {visits : List (List (Criterion × Float))} (hvisits : Itinerary.Visits it.legs visits)
    {levels : Nat} (hlevels : 7 ≤ levels)
    (h : ∀ edges ∈ it.trace, ∀ e ∈ edges, (Json.obj e.attributes.members).depth + 3 ≤ levels) :
    (ofItineraryWith visits it).depth ≤ levels := by
  have hlegs : itemsDepth (visits.zipWith ofLegWith it.legs) ≤ 5 := by
    refine itemsDepth_le_iff.mpr fun item hitem => ?_
    obtain ⟨leg, -, entries, -, rfl⟩ := exists_leg_of_mem_zipWith hvisits hitem
    exact depth_ofLegWith_le entries leg
  have htrace : (ofOption (ofList ofTraceEdge) it.trace).depth + 1 ≤ levels := by
    cases htrace : it.trace with
    | none =>
      simp only [ofOption, depth]
      omega
    | some edges =>
      have hedges : itemsDepth (edges.map ofTraceEdge) ≤ levels - 2 := by
        refine itemsDepth_le_iff.mpr fun item hitem => ?_
        obtain ⟨e, he, rfl⟩ := List.mem_map.mp hitem
        have hattributes := h edges htrace e he
        have hedge := depth_ofEdge_le e.edge
        simp only [depth] at hattributes
        simp only [ofTraceEdge, depth, membersDepth]
        omega
      simp only [ofOption, ofList, depth]
      omega
  simp only [ofItineraryWith, ofItineraryAround, depth, membersDepth]
  omega

/-! ## Every part can be used -/

theorem areReadable_iff {items : List Json} :
    areReadable items = true ↔ ∀ item ∈ items, item.isReadable = true := by
  induction items with
  | nil => simp [areReadable]
  | cons item rest ih => simp [areReadable, ih]

theorem membersReadable_iff {members : List (String × Json)} :
    membersReadable members = true ↔ ∀ m ∈ members, m.2.isReadable = true := by
  induction members with
  | nil => simp [membersReadable]
  | cons m rest ih => simp [membersReadable, ih]

theorem isReadable_ofList {α : Type} {encode : α → Json} {items : List α}
    (h : ∀ a ∈ items, (encode a).isReadable = true) : (ofList encode items).isReadable = true :=
  areReadable_iff.mpr fun item hitem => by
    obtain ⟨a, ha, rfl⟩ := List.mem_map.mp hitem
    exact h a ha

theorem isReadable_ofOption {α : Type} {encode : α → Json} {a? : Option α}
    (h : ∀ a ∈ a?, (encode a).isReadable = true) : (ofOption encode a?).isReadable = true := by
  cases a? with
  | none => rfl
  | some a => exact h a rfl

theorem isReadable_ofCostEntries (entries : List (Criterion × Float)) :
    (ofCostEntries entries).isReadable = true :=
  membersReadable_iff.mpr fun m hm => by
    obtain ⟨cost, -, rfl⟩ := List.mem_map.mp hm
    rfl

theorem isReadable_ofLegWith (entries : List (Criterion × Float)) (leg : Leg Float) :
    (ofLegWith entries leg).isReadable = true := by
  have hgeometry : (ofOption ofOctets leg.geometry).isReadable = true :=
    isReadable_ofOption fun octets _ => isReadable_ofList fun _ _ => rfl
  simp only [ofLegWith, ofLegKind, ofLegType, ofInt64, isReadable, membersReadable,
    membersReadable_legMembers, isReadable_ofCostEntries, hgeometry, Bool.and_self]

theorem isReadable_ofTraceEdge (e : TraceEdge) : (ofTraceEdge e).isReadable = true := by
  have hattributes : (Json.obj e.attributes.members).isReadable = true :=
    isReadable_of_isPlain e.attributes.plain
  rw [isReadable] at hattributes
  simp only [ofTraceEdge, isReadable, membersReadable, isReadable_ofEdge, hattributes,
    Bool.and_self]

theorem isReadable_ofItineraryWith {it : Itinerary Float}
    {visits : List (List (Criterion × Float))} (h : Itinerary.Visits it.legs visits) :
    (ofItineraryWith visits it).isReadable = true := by
  have hlegs : areReadable (visits.zipWith ofLegWith it.legs) = true := by
    refine areReadable_iff.mpr fun item hitem => ?_
    obtain ⟨leg, -, entries, -, rfl⟩ := exists_leg_of_mem_zipWith h hitem
    exact isReadable_ofLegWith entries leg
  have htrace : (ofOption (ofList ofTraceEdge) it.trace).isReadable = true :=
    isReadable_ofOption fun edges _ => isReadable_ofList fun e _ => isReadable_ofTraceEdge e
  rw [ofItineraryWith, ofItineraryAround, isReadable]
  simp only [membersReadable, hlegs, htrace, isReadable, Bool.and_self]

end Json

end Multimodal
