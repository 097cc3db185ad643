import Multimodal.Itinerary.Json
import Multimodal.Proofs.DateTexts
import Multimodal.Proofs.Json.Decoders
import Multimodal.Proofs.TotalCosts

/-!
# Itineraries and their encoding

The costs of a leg may be met in any order when they are written (`Itinerary.Visits`). The encoding
of an itinerary is decoded to the itinerary, whatever the order is (`asItinerary_ofItineraryWith`).
-/
namespace Multimodal

namespace Costs

variable {V : Type}

theorem get?_foldl_set (entries : List (Criterion × V)) (start : Costs V) (c : Criterion) :
    (entries.foldl (fun sum entry => sum.set entry.1 entry.2) start).get? c =
      (valuesOf c entries).getLast?.or (start.get? c) := by
  induction entries generalizing start with
  | nil => rfl
  | cons entry rest ih =>
    rw [List.foldl_cons, ih, get?_set, valuesOf_cons]
    by_cases h : entry.1 = c
    · rw [if_pos h, if_pos h, List.getLast?_cons]
      cases (valuesOf c rest).getLast? <;> rfl
    · rw [if_neg h, if_neg h]

/-- Costs are the costs of their entries, in any order. -/
theorem ofList_of_perm {costs : Costs V} {entries : List (Criterion × V)}
    (h : entries.Perm costs.toList) : ofList entries = costs := by
  ext c : 1
  refine (get?_foldl_set entries empty c).trans ?_
  rw [get?_empty, valuesOf_of_perm h, Option.or_none]
  cases costs.get? c <;> rfl

/-- Adding values that have a property keeps it. -/
theorem forall_get?_foldl_set {P : V → Prop} {values : List (Criterion × V)} {start : Costs V}
    (hvalues : ∀ cost ∈ values, P cost.2) (hstart : ∀ c x, start.get? c = some x → P x) :
    ∀ c x, (values.foldl (fun sum entry => sum.set entry.1 entry.2) start).get? c = some x →
      P x := by
  induction values generalizing start with
  | nil => exact hstart
  | cons cost rest ih =>
    rw [List.forall_mem_cons] at hvalues
    refine ih hvalues.2 fun c x hx => ?_
    rw [get?_set] at hx
    split at hx
    · cases hx
      exact hvalues.1
    · exact hstart c x hx

/-- What holds of every value in a list holds of the values of the costs it makes up. -/
theorem forall_toList_ofList {P : V → Prop} {values : List (Criterion × V)}
    (h : ∀ cost ∈ values, P cost.2) : ∀ x ∈ (ofList values).toList.map (·.2), P x := by
  have hempty : ∀ c x, (empty : Costs V).get? c = some x → P x := by
    intro c x hx
    rw [get?_empty] at hx
    cases hx
  intro x hx
  obtain ⟨cost, hcost, rfl⟩ := List.mem_map.mp hx
  obtain ⟨c, -, hc⟩ := List.mem_filterMap.mp hcost
  obtain ⟨x, hget, rfl⟩ := Option.map_eq_some_iff.mp hc
  exact forall_get?_foldl_set h hempty c x hget

end Costs

namespace Json

/-! ## Costs -/

theorem asCriterion_name (c : Criterion) : asCriterion (.str c.name) = .ok c := by
  cases c <;> rfl

def asCost (m : String × Json) : Decoded (Criterion × Float) := do
  let criterion ← asCriterion (.str m.1)
  let value ← asFloat m.2
  return (criterion, value)

theorem asCosts_obj (members : List (String × Json)) :
    asCosts (.obj members) = members.mapM asCost >>= fun values => .ok (Costs.ofList values) := rfl

theorem ofCostEntries_eq (entries : List (Criterion × Float)) :
    ofCostEntries entries = .obj (entries.map fun cost => (cost.1.name, .real cost.2)) := rfl

/-- Costs are read back in whatever order they were met. -/
theorem asCosts_ofCostEntries {costs : Costs Float} {entries : List (Criterion × Float)}
    (h : entries.Perm costs.toList) : asCosts (ofCostEntries entries) = .ok costs := by
  have hvalues : (entries.map fun cost => (cost.1.name, Json.real cost.2)).mapM asCost =
      .ok entries := by
    refine mapM_map_eq_ok fun cost _ => ?_
    simp only [asCost, asCriterion_name, asFloat]
    rfl
  rw [ofCostEntries_eq, asCosts_obj, hvalues]
  exact congrArg Except.ok (Costs.ofList_of_perm h)

/-! ## Kinds of legs -/

theorem asMovement_ofMovement (medium : Medium) (m : Movement) :
    asMovement medium (ofMovement m) = .ok m := by
  cases m <;> rfl

theorem asLegType_ofLegType (t : LegType) : asLegType (ofLegType t) = .ok t := by
  cases t <;> rfl

theorem asKilometers_real (km : Kilometers) : asKilometers (.real km.value) = .ok km := by
  have hkm : Kilometers.ofFloat km.value = .ok km := dif_pos km.valid
  simp only [asKilometers, asFloat, bind, Except.bind, hkm]
  rfl

theorem asDistance_ofDistance (medium : Medium) (d : TraversedDistance) :
    asDistance medium (ofDistance d) = .ok d := by
  cases d with
  | km distance =>
    simp only [ofDistance, asDistance, List.isEmpty_nil, or_true, if_true, asKilometers_real]
    rfl
  | untilSectionEnd => rfl

/-- A kind of leg is read by its type from the members beside it. -/
theorem asLegKind_typed {name : String} {members : List (String × Json)}
    (hnames : ∀ m ∈ members, m.1 ≠ "type") :
    asLegKind (.obj (("type", .str name) :: members)) =
      if membersReadable members then
        asLegType (.str name) >>= fun type => asLegOfType type (.obj members)
      else .error .shape := by
  have htype : (("type", Json.str name) :: members).filter (·.1 == "type") =
      [("type", .str name)] := by
    rw [List.filter_cons_of_pos rfl, List.filter_eq_nil_iff.mpr fun m hm => by simp [hnames m hm]]
  have hrest : (("type", Json.str name) :: members).filter (·.1 != "type") = members := by
    rw [List.filter_cons_of_neg (by simp),
      List.filter_eq_self.mpr fun m hm => by simp [hnames m hm]]
  simp only [asLegKind, htype, hrest]
  rfl

/-- No member of a kind of leg is named like its type. -/
theorem name_ne_type {kind : LegKind} : ∀ m ∈ legMembers kind, m.1 ≠ "type" := by
  cases kind <;>
    simp only [legMembers, List.forall_mem_cons, ne_eq] <;>
    refine ⟨by decide, by decide, by decide, by decide, ?_⟩
  · exact nofun
  · exact ⟨by decide, by decide, by decide, by decide, by decide, by decide, nofun⟩
  · exact nofun

theorem asLegOfType_legMembers (kind : LegKind) :
    asLegOfType kind.type (.obj (legMembers kind)) = .ok kind := by
  cases kind with
  | road leg =>
    have hzip := @asRecord_zip _ roadLegFields [ofInt64 leg.roadSection, .str leg.roadName,
      ofDistance leg.distance, ofMovement leg.movement] ⟨0, "", .untilSectionEnd, .goAhead⟩
      (by decide) rfl
    have hrecord : asRecord roadLegFields ⟨0, "", .untilSectionEnd, .goAhead⟩
        (.obj (legMembers (.road leg))) = .ok leg := by
      refine hzip.trans ?_
      simp only [roadLegFields, RecordField.readInOrder, RecordField.required, asInt64_ofInt64,
        asText, asDistance_ofDistance, asMovement_ofMovement, Except.map]
    simp only [LegKind.type, asLegOfType, hrecord, Except.map]
  | transit leg =>
    have hzip := @asRecord_zip _ transitLegFields ((legMembers (.transit leg)).map (·.2)) default
      (by decide) rfl
    have hrecord : asRecord transitLegFields default (.obj (legMembers (.transit leg))) =
        .ok leg := by
      refine hzip.trans ?_
      simp only [transitLegFields, legMembers, List.map_cons, List.map_nil,
        RecordField.readInOrder, RecordField.required, asInt64_ofInt64, asText, asFloat, Except.map]
    simp only [LegKind.type, asLegOfType, hrecord, Except.map]
  | transfer leg =>
    have hzip := @asRecord_zip _ transferLegFields ((legMembers (.transfer leg)).map (·.2)) default
      (by decide) rfl
    have hrecord : asRecord transferLegFields default (.obj (legMembers (.transfer leg))) =
        .ok leg := by
      refine hzip.trans ?_
      simp only [transferLegFields, legMembers, List.map_cons, List.map_nil,
        RecordField.readInOrder, RecordField.required, asInt64_ofInt64, asText, asEdge_ofEdge,
        Except.map]
    simp only [LegKind.type, asLegOfType, hrecord, Except.map]

theorem isReadable_ofVertex (v : Vertex) : (ofVertex v).isReadable = true := by
  cases v <;> rfl

theorem isReadable_ofEdge (e : Edge) : (ofEdge e).isReadable = true := by
  simp only [ofEdge, isReadable, membersReadable, isReadable_ofVertex, Bool.and_true]

theorem isReadable_ofDistance (d : TraversedDistance) : (ofDistance d).isReadable = true := by
  cases d <;> rfl

theorem membersReadable_legMembers (kind : LegKind) : membersReadable (legMembers kind) = true := by
  cases kind <;>
    simp only [legMembers, membersReadable, ofInt64, ofMovement, isReadable, isReadable_ofDistance,
      isReadable_ofEdge, Bool.and_true]

theorem asLegKind_ofLegKind (kind : LegKind) : asLegKind (ofLegKind kind) = .ok kind := by
  have htype := asLegType_ofLegType kind.type
  rw [ofLegKind, ofLegType, asLegKind_typed name_ne_type, if_pos (membersReadable_legMembers kind)]
  rw [ofLegType] at htype
  rw [htype]
  exact asLegOfType_legMembers kind

/-! ## Legs and itineraries -/

/-- A value that may be missing is decoded as its decoder does, unless it is encoded as `null`. -/
theorem asOptional_ofOption {α : Type} {decode : Json → Decoded α} {encode : α → Json}
    {a? : Option α} (hnull : ∀ a, encode a ≠ .null) (h : ∀ a ∈ a?, decode (encode a) = .ok a) :
    asOptional decode (ofOption encode a?) = .ok a? := by
  cases a? with
  | none => rfl
  | some a =>
    simp only [ofOption, asOptional]
    split
    · rename_i heq
      exact absurd heq (hnull a)
    · rw [h a rfl]
      rfl

theorem asLeg_ofLegWith {leg : Leg Float} {entries : List (Criterion × Float)}
    (h : entries.Perm leg.costs.toList) : asLeg (ofLegWith entries leg) = .ok leg := by
  have hgeometry : asOptional asOctets (ofOption ofOctets leg.geometry) = .ok leg.geometry :=
    asOptional_ofOption nofun fun octets _ => asOctets_ofOctets octets
  have hzip := @asRecord_zip _ legFields
    [ofLegKind leg.kind, ofCostEntries entries, ofInt64 leg.mode, ofOption ofOctets leg.geometry]
    (Leg.new (.transfer default) 0) (by decide) rfl
  refine hzip.trans ?_
  simp only [legFields, RecordField.readInOrder, RecordField.required, RecordField.optional,
    asLegKind_ofLegKind, asCosts_ofCostEntries h, asInt64_ofInt64, hgeometry, Except.map]

theorem asList_zipWith_ofLegWith {legs : List (Leg Float)}
    {visits : List (List (Criterion × Float))} (h : Itinerary.Visits legs visits) :
    asList asLeg (.arr (visits.zipWith ofLegWith legs)) = .ok legs := by
  rw [asList]
  induction h with
  | nil => rfl
  | cons hentries _ ih =>
    rw [List.zipWith_cons_cons, List.mapM_cons, asLeg_ofLegWith hentries, ih]
    rfl

theorem asTraceEdge_ofTraceEdge (e : TraceEdge) : asTraceEdge (ofTraceEdge e) = .ok e := by
  have hzip := @asRecord_zip _ traceEdgeFields [ofEdge e.edge, .obj e.attributes.members] default
    (by decide) rfl
  refine hzip.trans ?_
  simp only [traceEdgeFields, RecordField.readInOrder, RecordField.required, asEdge_ofEdge,
    asMap_members, Except.map]

theorem asDateTime_text (t : DateTime) : asDateTime (.str t.text) = .ok t := by
  simp only [asDateTime, DateTime.read?_text, Option.elim_some]

theorem ofItinerary_eq (it : Itinerary Float) :
    ofItinerary it = ofItineraryWith (it.legs.map (·.costs.toList)) it := by
  have hsteps : (it.legs.map (·.costs.toList)).zipWith ofLegWith it.legs = it.legs.map ofLeg := by
    rw [List.zipWith_map_left, List.zipWith_self]
    rfl
  rw [ofItineraryWith, hsteps, ofItinerary]

/-- The encoding of an itinerary is decoded to it, in whatever order its costs were met. -/
theorem asItinerary_ofItineraryWith {it : Itinerary Float}
    {visits : List (List (Criterion × Float))} (h : Itinerary.Visits it.legs visits) :
    asItinerary (ofItineraryWith visits it) = .ok it := by
  have htrace : asOptional (asList asTraceEdge) (ofOption (ofList ofTraceEdge) it.trace) =
      .ok it.trace :=
    asOptional_ofOption nofun fun edges _ => asList_ofList fun e _ => asTraceEdge_ofTraceEdge e
  have hzip := @asRecord_zip _ itineraryFields [.arr (visits.zipWith ofLegWith it.legs),
    .str it.start.text, ofOption (ofList ofTraceEdge) it.trace] Itinerary.empty (by decide) rfl
  refine hzip.trans ?_
  simp only [itineraryFields, RecordField.readInOrder, RecordField.required, RecordField.optional,
    asList_zipWith_ofLegWith h, asDateTime_text, htrace, Except.map]

end Json

end Multimodal
