import Multimodal.Proofs.Json.Exports

/-!
# Itineraries as text

* `Itinerary.ofText_toText`: an itinerary is read back from its text exactly as it was, if its times
  and costs are finite; if one is not, its text is no itinerary. An itinerary that any text at all
  was read as has finite numbers only, and is read back from the text it is then written as.
-/
namespace Multimodal

namespace Json

/-! ## Times and costs that are not finite -/

theorem isFinite_of_asFloat_seen {levels : Nat} {x y : Float}
    (h : asFloat (seen levels (.real x)) = .ok y) : x.isFinite = true := by
  rw [seen] at h
  split at h
  · assumption
  · cases h

theorem isFinite_of_asCosts_seen {levels : Nat} {entries : List (Criterion × Float)}
    {read : Costs Float} (h : asCosts (seen (levels + 1) (ofCostEntries entries)) = .ok read) :
    ∀ x ∈ entries.map (·.2), x.isFinite = true := by
  rw [ofCostEntries_eq, seen, if_neg (Nat.succ_ne_zero levels), membersSeen_eq_map, asCosts_obj,
    bind_eq_ok] at h
  obtain ⟨values, hvalues, -⟩ := h
  intro x hx
  obtain ⟨cost, hcost, rfl⟩ := List.mem_map.mp hx
  obtain ⟨_, hread⟩ := exists_of_mapM_eq_ok hvalues _
    (List.mem_map_of_mem (List.mem_map_of_mem hcost))
  obtain ⟨criterion, -, hread⟩ := bind_eq_ok.mp hread
  obtain ⟨y, hy, -⟩ := bind_eq_ok.mp hread
  exact @isFinite_of_asFloat_seen levels _ _ hy

theorem isFinite_of_required {ρ : Type} {name : String} {put : Float → ρ → ρ} {levels : Nat}
    {x : Float} (h : ∃ before after,
      (RecordField.required name asFloat put).read (seen levels (.real x)) before = .ok after) :
    x.isFinite = true := by
  obtain ⟨before, after, hread⟩ := h
  obtain ⟨y, hy, -⟩ := map_eq_ok.mp hread
  exact isFinite_of_asFloat_seen hy

theorem isFinite_of_asLegKind_seen {levels : Nat} {kind read : LegKind}
    (h : asLegKind (seen (levels + 1) (ofLegKind kind)) = .ok read) :
    ∀ x ∈ kind.times, x.isFinite = true := by
  cases kind with
  | road leg => exact List.forall_mem_nil _
  | transfer leg => exact List.forall_mem_nil _
  | transit leg =>
    have hnames : ∀ m ∈ membersSeen levels (legMembers (.transit leg)), m.1 ≠ "type" := by
      rw [membersSeen_eq_map]
      intro m hm
      obtain ⟨member, hmember, rfl⟩ := List.mem_map.mp hm
      exact name_ne_type member hmember
    have hzip := @asRecord_zip _ transitLegFields
      ((membersSeen levels (legMembers (.transit leg))).map (·.2)) default (by decide) rfl
    have hseen : seen (levels + 1) (ofLegKind (.transit leg)) =
        .obj (("type", .str "public_transport") ::
          membersSeen levels (legMembers (.transit leg))) := rfl
    rw [hseen, asLegKind_typed hnames] at h
    split at h
    · obtain ⟨type, htype, h⟩ := bind_eq_ok.mp h
      cases htype
      obtain ⟨transit, h, -⟩ := map_eq_ok.mp h
      have hfields := RecordField.exists_read_of_readInOrder (hzip.symm.trans h)
      simp only [transitLegFields, legMembers, membersSeen, List.map_cons, List.zip_cons_cons,
        List.forall_mem_cons] at hfields
      obtain ⟨-, hwait, hdeparture, harrival, -⟩ := hfields
      simp only [LegKind.times, List.forall_mem_cons]
      exact ⟨isFinite_of_required hwait, isFinite_of_required hdeparture,
        isFinite_of_required harrival, List.forall_mem_nil _⟩
    · cases h

/-- A leg is not read back unless what was measured for it is finite. -/
theorem isFinite_of_asLeg_seen {levels : Nat} {leg read : Leg Float}
    {entries : List (Criterion × Float)} (hentries : entries.Perm leg.costs.toList)
    (h : asLeg (seen (levels + 2) (ofLegWith entries leg)) = .ok read) :
    ∀ x ∈ leg.measures, x.isFinite = true := by
  have hzip := @asRecord_zip _ legFields [seen (levels + 1) (ofLegKind leg.kind),
    seen (levels + 1) (ofCostEntries entries), seen (levels + 1) (ofInt64 leg.mode),
    seen (levels + 1) (ofOption ofOctets leg.geometry)] (Leg.new (.transfer default) 0)
    (by decide) rfl
  have hfields := RecordField.exists_read_of_readInOrder (hzip.symm.trans h)
  simp only [legFields, List.zip_cons_cons, List.forall_mem_cons] at hfields
  obtain ⟨⟨_, _, hkind⟩, ⟨_, _, hcosts⟩, -⟩ := hfields
  obtain ⟨kind, hkind, -⟩ := map_eq_ok.mp hkind
  obtain ⟨costs, hcosts, -⟩ := map_eq_ok.mp hcosts
  have hfinite := isFinite_of_asCosts_seen hcosts
  exact List.forall_mem_append.mpr ⟨isFinite_of_asLegKind_seen hkind,
    fun x hx => hfinite x ((hentries.map _).mem_iff.mpr hx)⟩

/-- An itinerary is not read back unless what was measured for its legs is finite. -/
theorem isFinite_of_asItinerary_seen {levels : Nat} {it read : Itinerary Float}
    {visits : List (List (Criterion × Float))} (hvisits : Itinerary.Visits it.legs visits)
    (h : asItinerary (seen (levels + 4) (ofItineraryWith visits it)) = .ok read) :
    ∀ x ∈ it.measures, x.isFinite = true := by
  have hzip := @asRecord_zip _ itineraryFields
    [seen (levels + 3) (.arr (visits.zipWith ofLegWith it.legs)),
    seen (levels + 3) (.str it.start.text),
    seen (levels + 3) (ofOption (ofList ofTraceEdge) it.trace)] Itinerary.empty (by decide) rfl
  have hfields := RecordField.exists_read_of_readInOrder (hzip.symm.trans h)
  simp only [itineraryFields, List.zip_cons_cons, List.forall_mem_cons] at hfields
  obtain ⟨⟨_, _, hlegs⟩, -⟩ := hfields
  obtain ⟨legs, hlegs, -⟩ := map_eq_ok.mp hlegs
  rw [seen, if_neg (by omega), itemsSeen_eq_map] at hlegs
  intro x hx
  obtain ⟨leg, hleg, hx⟩ := List.mem_flatMap.mp hx
  obtain ⟨entries, hentries, hitem⟩ := exists_entries_of_mem hvisits hleg
  obtain ⟨_, hread⟩ := exists_of_mapM_eq_ok hlegs _ (List.mem_map_of_mem hitem)
  exact isFinite_of_asLeg_seen hentries hread x hx

/-! ## What a text can hold -/

section Held

variable {levels : Nat} {v : Json}

theorem forall_of_asList {α : Type} {P : α → Prop} {decode : Json → Decoded α} {items : List α}
    (hv : Held levels v) (h : asList decode v = .ok items)
    (hdecode : ∀ item a, Held (levels - 1) item → decode item = .ok a → P a) :
    ∀ a ∈ items, P a := by
  cases v with
  | arr values =>
    exact forall_of_mapM_eq_ok h fun item hitem a ha =>
      hdecode item a ((held_array.mp hv).2 item hitem) ha
  | _ => cases h

theorem decode_of_asOptional {α : Type} {decode : Json → Decoded α} {a? : Option α}
    (h : asOptional decode v = .ok a?) : ∀ a ∈ a?, decode v = .ok a := by
  unfold asOptional at h
  split at h
  · cases h
    nofun
  · obtain ⟨a, ha, rfl⟩ := map_eq_ok.mp h
    intro b hb
    cases hb
    exact ha

theorem isFinite_of_asCosts {costs : Costs Float} (hv : Held levels v)
    (h : asCosts v = .ok costs) : ∀ x ∈ costs.toList.map (·.2), x.isFinite = true := by
  cases v with
  | obj members =>
    rw [asCosts_obj, bind_eq_ok] at h
    obtain ⟨values, hvalues, heq⟩ := h
    cases heq
    have hfinite : ∀ cost ∈ values, cost.2.isFinite = true := by
      refine forall_of_mapM_eq_ok hvalues fun m hm cost hcost => ?_
      obtain ⟨criterion, -, hcost⟩ := bind_eq_ok.mp hcost
      obtain ⟨y, hy, heq⟩ := bind_eq_ok.mp hcost
      cases heq
      exact isFinite_of_asFloat ((held_object.mp hv).2 m hm) hy
    exact Costs.forall_toList_ofList hfinite
  | _ => cases h

theorem isFinite_of_asLegOfType {type : LegType} {kind : LegKind} (hv : Held levels v)
    (h : asLegOfType type v = .ok kind) : ∀ x ∈ kind.times, x.isFinite = true := by
  cases type with
  | road =>
    obtain ⟨leg, -, rfl⟩ := map_eq_ok.mp h
    exact List.forall_mem_nil _
  | transfer =>
    obtain ⟨leg, -, rfl⟩ := map_eq_ok.mp h
    exact List.forall_mem_nil _
  | transit =>
    obtain ⟨leg, hleg, rfl⟩ := map_eq_ok.mp h
    have hstart : ∀ x ∈ (LegKind.transit default).times, x.isFinite = true := by
      decide +kernel
    refine @keeps_asRecord _ levels transitLegFields
      (fun leg => ∀ x ∈ (LegKind.transit leg).times, x.isFinite = true) _ _ v hv ?_ hstart hleg
    simp only [transitLegFields, List.forall_mem_cons, LegKind.times]
    refine ⟨?_, ?_, ?_, ?_, ?_, ?_, ?_, ?_, ?_, ?_, List.forall_mem_nil _⟩
    case refine_2 =>
      exact RecordField.keeps_required fun _ _ _ hvalue hx hr =>
        ⟨isFinite_of_asFloat hvalue hx, hr.2⟩
    case refine_3 =>
      exact RecordField.keeps_required fun _ _ _ hvalue hx hr =>
        ⟨hr.1, isFinite_of_asFloat hvalue hx, hr.2.2⟩
    case refine_4 =>
      exact RecordField.keeps_required fun _ _ _ hvalue hx hr =>
        ⟨hr.1, hr.2.1, isFinite_of_asFloat hvalue hx, hr.2.2.2⟩
    all_goals exact RecordField.keeps_required fun _ _ _ _ _ hr => hr

theorem isFinite_of_asLegKind {kind : LegKind} (hv : Held levels v)
    (h : asLegKind v = .ok kind) : ∀ x ∈ kind.times, x.isFinite = true := by
  unfold asLegKind at h
  split at h
  · split at h
    · rename_i members
      split at h
      · obtain ⟨type, -, hbody⟩ := bind_eq_ok.mp h
        have hmembers := held_object.mp hv
        refine isFinite_of_asLegOfType (held_object.mpr ⟨hmembers.1, fun m hm => ?_⟩) hbody
        exact hmembers.2 m (List.mem_of_mem_filter hm)
      · cases h
    · rename_i items
      obtain ⟨type, -, hbody⟩ := bind_eq_ok.mp h
      have hitems := held_array.mp hv
      refine isFinite_of_asLegOfType (held_array.mpr ⟨hitems.1, fun item hitem => ?_⟩) hbody
      exact hitems.2 item (List.mem_cons_of_mem _ hitem)
    · cases h
  · cases h

/-- What was measured for a leg that is read from a text is finite. -/
theorem isFinite_of_asLeg {leg : Leg Float} (hv : Held levels v) (h : asLeg v = .ok leg) :
    ∀ x ∈ leg.measures, x.isFinite = true := by
  have hstart : ∀ x ∈ (Leg.new (.transfer default) 0 : Leg Float).measures, x.isFinite = true := by
    decide +kernel
  refine @keeps_asRecord _ levels legFields (fun leg => ∀ x ∈ leg.measures, x.isFinite = true) _ _
    v hv ?_ hstart h
  simp only [legFields, List.forall_mem_cons, Leg.measures, List.forall_mem_append]
  refine ⟨?_, ?_, ?_, ?_, List.forall_mem_nil _⟩
  · exact RecordField.keeps_required fun _ _ _ hvalue hx hr =>
      ⟨isFinite_of_asLegKind hvalue hx, hr.2⟩
  · exact RecordField.keeps_required fun _ _ _ hvalue hx hr => ⟨hr.1, isFinite_of_asCosts hvalue hx⟩
  · exact RecordField.keeps_required fun _ _ _ _ _ hr => hr
  · exact RecordField.keeps_optional fun _ _ _ _ _ hr => hr

/-- The attributes of an edge nest a level less deeply than its value. -/
theorem depth_le_of_asTraceEdge {e : TraceEdge} (hv : Held levels v) (hlevels : 2 ≤ levels)
    (h : asTraceEdge v = .ok e) : (Json.obj e.attributes.members).depth + 1 ≤ levels := by
  have hstart : (Json.obj (default : TraceEdge).attributes.members).depth + 1 ≤ levels := hlevels
  refine @keeps_asRecord _ levels traceEdgeFields
    (fun e => (Json.obj e.attributes.members).depth + 1 ≤ levels) _ _ v hv ?_ hstart h
  simp only [traceEdgeFields, List.forall_mem_cons]
  refine ⟨?_, ?_, List.forall_mem_nil _⟩
  · exact RecordField.keeps_required fun _ _ _ _ _ hr => hr
  · refine RecordField.keeps_required fun value attributes _ hvalue hx _ => ?_
    have hnests := hvalue.nests
    have hdepth := depth_le_of_asMap hx
    show (Json.obj attributes.members).depth + 1 ≤ levels
    omega

/-- An itinerary that a text holds: what was measured is finite, and the attributes of its trace
nest three levels less deeply than the text may. -/
structure IsHeld (levels : Nat) (it : Itinerary Float) : Prop where
  finite : ∀ x ∈ it.measures, x.isFinite = true
  nests : ∀ edges ∈ it.trace, ∀ e ∈ edges, (Json.obj e.attributes.members).depth + 3 ≤ levels

theorem isHeld_of_asItinerary {it : Itinerary Float} (hv : Held levels v) (hlevels : 4 ≤ levels)
    (h : asItinerary v = .ok it) : IsHeld levels it := by
  have hstart : IsHeld levels Itinerary.empty :=
    ⟨List.forall_mem_nil _, fun _ h => absurd h (Option.not_mem_none _)⟩
  refine @keeps_asRecord _ levels itineraryFields (IsHeld levels) _ _ v hv ?_ hstart h
  simp only [itineraryFields, List.forall_mem_cons]
  refine ⟨?_, ?_, ?_, List.forall_mem_nil _⟩
  · refine RecordField.keeps_required fun value legs it hvalue hx hr => ⟨?_, hr.nests⟩
    have hlegs := forall_of_asList hvalue hx fun item leg hitem hleg => isFinite_of_asLeg hitem hleg
    intro x hx
    obtain ⟨leg, hleg, hx⟩ := List.mem_flatMap.mp hx
    exact hlegs leg hleg x hx
  · exact RecordField.keeps_required fun _ _ _ _ _ hr => ⟨hr.finite, hr.nests⟩
  · refine RecordField.keeps_optional fun value trace it hvalue hx hr => ⟨hr.finite, ?_⟩
    intro edges hedges
    refine forall_of_asList hvalue (decode_of_asOptional hx edges hedges) fun item e hitem he => ?_
    have hdepth := depth_le_of_asTraceEdge hitem (by omega) he
    omega

end Held

end Json

/-! ## Text and back -/

namespace Itinerary

theorem isLength_of_mem_distances {it : Itinerary Float} {km : Float} (h : km ∈ it.distances) :
    km.isFinite = true ∧ 0.0 ≤ km := by
  obtain ⟨leg, -, hkm⟩ := List.mem_filterMap.mp h
  split at hkm
  · rename_i road _
    cases hdistance : road.distance with
    | km distance =>
      rw [hdistance] at hkm
      cases hkm
      have hvalid := distance.valid
      rw [isLength, Bool.and_eq_true, decide_eq_true_eq] at hvalid
      exact hvalid
    | untilSectionEnd =>
      rw [hdistance] at hkm
      cases hkm
  · cases hkm

theorem visits_toList (legs : List (Leg Float)) : Visits legs (legs.map (·.costs.toList)) :=
  List.forall₂_map_right_iff.mpr (List.forall₂_same.mpr fun _ _ => .refl _)

theorem toText_eq (it : Itinerary Float) :
    it.toText = it.toTextWith (it.legs.map (·.costs.toList)) := by
  rw [toText, toTextWith, Json.ofItinerary_eq]

section Text

variable {it : Itinerary Float} {visits : List (List (Criterion × Float))}
  (hvisits : Visits it.legs visits)
  (hdoubles : ∀ x ∈ (Json.ofItineraryWith visits it).reals, x.isFinite = true →
    Json.readNumber (Number.jsonText x) = some (.real x, []))

include hvisits hdoubles

theorem readsBack_ofItineraryWith :
    ∀ leaf ∈ (Json.ofItineraryWith visits it).leaves, Json.ReadsBack leaf := by
  intro leaf hleaf
  cases leaf with
  | int n =>
    rcases Json.isSaneOr_ofItineraryWith hvisits _ hleaf with hsane | ⟨x, -, heq⟩
    · exact hsane
    · cases heq
  | real x => exact hdoubles x (Json.mem_reals.mpr hleaf)
  | _ => trivial

/-- The text of an itinerary is decoded as what is seen of its encoding. -/
theorem ofText_toTextWith_eq :
    ofText (it.toTextWith visits) =
      Json.asItinerary (Json.seen Json.maxDepth (Json.ofItineraryWith visits it)) := by
  have hread := Json.read_print (readsBack_ofItineraryWith hvisits hdoubles)
  rw [ofText, toTextWith, Json.decodeText, hread]
  cases Json.asItinerary (Json.seen Json.maxDepth (Json.ofItineraryWith visits it)) <;> rfl

theorem ofText_toTextWith_of_isFinite (hfinite : ∀ x ∈ it.measures, x.isFinite = true)
    (hdepth : (Json.ofItineraryWith visits it).depth ≤ Json.maxDepth) :
    ofText (it.toTextWith visits) = .ok it := by
  have hreals : ∀ x, .real x ∈ (Json.ofItineraryWith visits it).leaves → x.isFinite = true := by
    intro x hx
    rcases Json.isSaneOr_ofItineraryWith hvisits _ hx with hsane | ⟨y, hy, heq⟩
    · exact hsane
    · cases heq
      exact hfinite x hy
  rw [ofText_toTextWith_eq hvisits hdoubles,
    Json.seen_eq_self (Json.isReadable_ofItineraryWith hvisits) hdepth hreals,
    Json.asItinerary_ofItineraryWith hvisits]

end Text

/-- An itinerary is written as text, its costs in any order, and read back exactly as it was, when
its times and costs are finite and it nests no deeper than a text may. If a time or a cost is not
finite, what is written is no itinerary. Whatever text an itinerary was read from, its distances are
finite and not negative, and it is read back from the text it is then written as. The order of
criteria is one in which costs may be written.

Of the doubles that occur, it is assumed that a finite one comes back from its own text. -/
theorem ofText_toText (it : Itinerary Float) (visits : List (List (Criterion × Float)))
    (hvisits : Visits it.legs visits)
    (hdoubles : ∀ x ∈ (Json.ofItineraryWith visits it).reals, x.isFinite = true →
      Json.readNumber (Number.jsonText x) = some (.real x, [])) :
    ((∀ x ∈ it.measures, x.isFinite = true) →
      (Json.ofItineraryWith visits it).depth ≤ Json.maxDepth →
      ofText (it.toTextWith visits) = .ok it) ∧
    ((∃ x ∈ it.measures, x.isFinite = false) →
      ∃ fault, ofText (it.toTextWith visits) = .error fault) ∧
    (∀ text, ofText text = .ok it →
      (∀ km ∈ it.distances, km.isFinite = true ∧ 0.0 ≤ km) ∧
        ofText (it.toTextWith visits) = .ok it) ∧
    Visits it.legs (it.legs.map (·.costs.toList)) ∧
      it.toText = it.toTextWith (it.legs.map (·.costs.toList)) := by
  refine ⟨ofText_toTextWith_of_isFinite hvisits hdoubles, ?_, fun text htext => ⟨?_, ?_⟩,
    visits_toList it.legs, toText_eq it⟩
  · rintro ⟨x, hx, hinfinite⟩
    cases hread : ofText (it.toTextWith visits) with
    | error fault => exact ⟨fault, rfl⟩
    | ok read =>
      rw [ofText_toTextWith_eq hvisits hdoubles] at hread
      have hfinite := @Json.isFinite_of_asItinerary_seen 123 _ _ _ hvisits hread x hx
      rw [hfinite] at hinfinite
      cases hinfinite
  · exact fun km => isLength_of_mem_distances
  · obtain ⟨read, hread, hclean⟩ := bind_eq_ok.mp htext
    split at hclean
    · cases hclean
      have hheld := Json.isHeld_of_asItinerary (Json.held_read text) (by decide) hread
      exact ofText_toTextWith_of_isFinite hvisits hdoubles hheld.finite
        (Json.depth_ofItineraryWith_le hvisits (by decide) hheld.nests)
    · cases hclean

/-- Half a road, a wait, a ride and a walk over to a car park, with a note about the last edge. -/
def excursion : Itinerary Float where
  legs :=
    [ { kind := .road ⟨7, "Quai \"Nord\"", .km ⟨1.5, by decide +kernel⟩, .turnLeft⟩
        costs := Costs.ofList [(.distance, 1.5), (.duration, 0.1)]
        mode := 3
        geometry := some [] },
      { kind := .transit
          { networkId := 2, wait := 4.25, departureTime := 487.0, arrivalTime := 502.5
            tripId := 11, departureStop := 20, departureName := "Gare"
            arrivalStop := 21, arrivalName := "Port", route := "A\n" }
        costs := Costs.ofList [(.price, -0.0)]
        mode := 5
        geometry := some [1, 255] },
      { kind := .transfer ⟨⟨.transit 0 9, .road 4⟩, 3, "Port", ""⟩
        costs := Costs.empty
        mode := 1
        geometry := none } ]
  start := ⟨2024, 2, 29, 23, 59, 60, 500000000, by decide⟩
  trace := some
    [⟨⟨.transit 0 9, .road 4⟩,
      ⟨[("note", .arr [.real 0.5, .int (-3)]), ("seen", .null)], by decide +kernel⟩⟩]

/-- The same with a ride that never arrives. -/
def stranded : Itinerary Float :=
  { excursion with
    legs :=
      [ { kind := .transit
            { networkId := 2, wait := 4.25, departureTime := 487.0, arrivalTime := 1.0 / 0.0
              tripId := 11, departureStop := 20, departureName := "Gare"
              arrivalStop := 21, arrivalName := "Port", route := "A" }
          costs := Costs.empty
          mode := 5
          geometry := none } ] }

/-- The costs of `excursion`, those of its first leg from the last to the first. -/
def excursionVisits : List (List (Criterion × Float)) :=
  [[(.duration, 0.1), (.distance, 1.5)], [(.price, -0.0)], []]

theorem visits_excursion : Visits excursion.legs excursionVisits :=
  .cons (.swap (Criterion.distance, 1.5) (Criterion.duration, 0.1) [])
    (.cons (.refl _) (.cons (.refl _) .nil))

theorem ofText_toText_excursion :
    (ofText (excursion.toTextWith excursionVisits) = .ok excursion ∧
      ofText excursion.toText = .ok excursion) ∧
      (∃ fault, ofText stranded.toText = .error fault) ∧
      ∀ km ∈ excursion.distances, km.isFinite = true ∧ 0.0 ≤ km := by
  have hturned := ofText_toText excursion excursionVisits visits_excursion (by
    have hreals : (Json.ofItineraryWith excursionVisits excursion).reals =
        [1.5, 0.1, 1.5, 4.25, 487.0, 502.5, -0.0, 0.5] := by rfl
    simp only [hreals, List.forall_mem_cons]
    exact ⟨fun _ => rfl, fun _ => rfl, fun _ => rfl, fun _ => rfl, fun _ => rfl, fun _ => rfl,
      fun _ => rfl, fun _ => rfl, nofun⟩)
  have hexcursion := ofText_toText excursion _ (visits_toList _) (by
    have hreals : (Json.ofItinerary excursion).reals =
        [1.5, 1.5, 0.1, 4.25, 487.0, 502.5, -0.0, 0.5] := by rfl
    rw [← Json.ofItinerary_eq]
    simp only [hreals, List.forall_mem_cons]
    exact ⟨fun _ => rfl, fun _ => rfl, fun _ => rfl, fun _ => rfl, fun _ => rfl, fun _ => rfl,
      fun _ => rfl, fun _ => rfl, nofun⟩)
  have hstranded := ofText_toText stranded _ (visits_toList _) (by
    have hreals : (Json.ofItinerary stranded).reals = [4.25, 487.0, 1.0 / 0.0, 0.5] := by rfl
    have hinfinite : (1.0 / 0.0 : Float).isFinite = false := by decide +kernel
    rw [← Json.ofItinerary_eq]
    simp only [hreals, List.forall_mem_cons, hinfinite]
    exact ⟨fun _ => rfl, fun _ => rfl, nofun, fun _ => rfl, nofun⟩)
  have hfinite : ∀ x ∈ excursion.measures, x.isFinite = true := by decide +kernel
  have htext := hturned.1 hfinite (by decide +kernel)
  refine ⟨⟨htext, ?_⟩, ?_, (hturned.2.2.1 _ htext).1⟩
  · rw [toText_eq]
    exact hexcursion.1 hfinite (by decide +kernel)
  · rw [toText_eq]
    exact hstranded.2.1 (by decide +kernel)

end Itinerary

end Multimodal
