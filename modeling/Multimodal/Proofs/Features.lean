import Multimodal.Itinerary.GeoJson
import Multimodal.Proofs.Json.Maps

/-!
# Legs as features

An itinerary is exported leg by leg, and geometries are decoded by any partial function. Whether the
export succeeds depends on the octets of the legs alone; if it does, every leg has its feature
(`Feature.Shows`), whose place among all is the only thing that other legs have a say in.

The properties of a feature are made of common ones and of those of the kind of leg. Their names are
different, so none replaces another (`perm_properties`).

* `Feature.shows_of_leg`: what the feature of a leg says.
* `properties_add`: the properties of a leg that stands further on.
* `featuresFrom_eq`: the features of legs, or why there are none.
* `Itinerary.features_faithful`: when an export fails, what it shows, and two itineraries in a row.
-/
namespace Multimodal

/-! ## What a feature of a leg says -/

/-- The names of the properties that only legs of one kind have. -/
def LegKind.propertyNames : LegKind → List String
  | .road _ => ["road_section", "road_name", "distance_km", "end_movement"]
  | .transit _ =>
    ["network_id", "route", "trip_id", "from_name", "to_name", "wait", "departure_time",
      "arrival_time"]
  | .transfer _ => ["from_name", "to_name", "final_mode"]

/-- The properties of a kind of legs have the values of its fields. A distance is `null` only if it
goes to the end of the section. -/
def LegKind.ShownBy (properties : List (String × Json)) : LegKind → Prop
  | .road leg =>
    ("road_section", .int leg.roadSection.toInt) ∈ properties ∧
    ("road_name", .str leg.roadName) ∈ properties ∧
    ("end_movement", .str leg.movement.name) ∈ properties ∧
    match leg.distance with
    | .km distance => ("distance_km", .real distance.value) ∈ properties
    | .untilSectionEnd => ("distance_km", .null) ∈ properties
  | .transit leg =>
    ("network_id", .int leg.networkId.toInt) ∈ properties ∧
    ("route", .str leg.route) ∈ properties ∧
    ("trip_id", .int leg.tripId.toInt) ∈ properties ∧
    ("from_name", .str leg.departureName) ∈ properties ∧
    ("to_name", .str leg.arrivalName) ∈ properties ∧
    ("wait", Json.ofReal leg.wait) ∈ properties ∧
    ("departure_time", Json.ofReal leg.departureTime) ∈ properties ∧
    ("arrival_time", Json.ofReal leg.arrivalTime) ∈ properties
  | .transfer leg =>
    ("from_name", .str leg.initialName) ∈ properties ∧
    ("to_name", .str leg.finalName) ∈ properties ∧
    ("final_mode", .int leg.finalMode.toInt) ∈ properties

/-- A map has the names of the criteria that costs set, with their values. Those that are not finite
are `null`. -/
structure Costs.ShownBy (members : List (String × Json)) (costs : Costs Float) : Prop where
  isMap : Json.IsMap members
  values : ∀ name value, (name, value) ∈ members ↔
    ∃ c v, costs.get? c = some v ∧ name = c.name ∧ value = if v.isFinite then .real v else .null

/-- A feature is that of the leg with the number `index`. -/
structure Feature.Shows (decode : List UInt8 → Except String Geometry) (index : Nat)
    (leg : Leg Float) (f : Feature) : Prop where
  geometry : match leg.geometry with
    | some octets => ∃ geometry, decode octets = .ok geometry ∧ f.geometry = some geometry
    | none => f.geometry = none
  isMap : Json.IsMap f.properties
  names : ∀ name, name ∈ f.properties.map (·.1) ↔
    name ∈ ["step_index", "transport_mode", "costs", "leg_type"] ++ leg.kind.propertyNames
  index : ("step_index", .int index) ∈ f.properties
  mode : ("transport_mode", .int leg.mode.toInt) ∈ f.properties
  costs : ∃ members, ("costs", .obj members) ∈ f.properties ∧ leg.costs.ShownBy members
  type : ("leg_type", .str leg.kind.type.name) ∈ f.properties
  kind : leg.kind.ShownBy f.properties

/-- The first leg whose geometry cannot be decoded, and why. -/
def FirstUndecodable (decode : List UInt8 → Except String Geometry) (legs : List (Leg Float))
    (text : String) : Prop :=
  ∃ before leg after, legs = before ++ leg :: after ∧
    (∃ octets, leg.geometry = some octets ∧ decode octets = .error text) ∧
    ∀ earlier ∈ before, ∀ octets, earlier.geometry = some octets →
      ∃ geometry, decode octets = .ok geometry

/-- The value of a property of a feature that stands further on: only its place changes. -/
def movedValue (places : Nat) (name : String) (value : Json) : Json :=
  match value with
  | .int index => if name = "step_index" then .int (index + places) else .int index
  | value => value

def Feature.moved (places : Nat) (f : Feature) : Feature :=
  { f with properties := Json.mapValues (movedValue places) f.properties }

/-! ## Properties -/

theorem Criterion.name_inj {c d : Criterion} (h : c.name = d.name) : c = d := by
  cases c <;> cases d <;> first | rfl | simp [name] at h

/-- The members that costs become, before they are put into a map. -/
def Costs.members (costs : Costs Float) : List (String × Json) :=
  costs.toList.map fun (criterion, value) => (criterion.name, Json.ofReal value)

theorem Costs.mem_members {costs : Costs Float} {name : String} {value : Json} :
    (name, value) ∈ costs.members ↔
      ∃ c v, costs.get? c = some v ∧ name = c.name ∧ value = Json.ofReal v := by
  constructor
  · intro h
    obtain ⟨⟨c, v⟩, hcost, hmember⟩ := List.mem_map.mp h
    obtain ⟨d, -, hset⟩ := List.mem_filterMap.mp hcost
    obtain ⟨w, hget, heq⟩ := Option.map_eq_some_iff.mp hset
    cases heq
    cases hmember
    exact ⟨c, v, hget, rfl, rfl⟩
  · rintro ⟨c, v, hget, rfl, rfl⟩
    refine List.mem_map.mpr ⟨(c, v), List.mem_filterMap.mpr ⟨c, Criterion.mem_all c, ?_⟩, rfl⟩
    rw [hget, Option.map_some]

/-- A criterion is set once, and names tell criteria apart. -/
theorem Costs.nodup_names_members (costs : Costs Float) :
    (costs.members.map (·.1)).Nodup := by
  have hcriteria : (costs.toList.map (·.1)).Sublist Criterion.all := by
    unfold toList
    generalize Criterion.all = criteria
    induction criteria with
    | nil => exact .slnil
    | cons c rest ih =>
      rw [List.filterMap_cons]
      cases costs.get? c with
      | none => exact ih.cons c
      | some v => exact ih.cons_cons c
  have hnodup := (hcriteria.nodup (by decide)).map @Criterion.name_inj
  rw [List.map_map] at hnodup
  rwa [members, List.map_map]

theorem Costs.shownBy_toMap (costs : Costs Float) : costs.ShownBy (Json.toMap costs.members) where
  isMap := Json.isMap_toMap _
  values := by
    intro name value
    rw [(Json.perm_toMap costs.nodup_names_members).mem_iff, mem_members]
    rfl

section
variable (index : Nat) (leg : Leg Float)

theorem nodup_names :
    ((leg.commonProperties index ++ leg.kind.properties).map (·.1)).Nodup := by
  unfold Leg.commonProperties LegKind.properties
  cases leg.kind <;> simp

theorem perm_properties :
    (leg.properties index).Perm (leg.commonProperties index ++ leg.kind.properties) := by
  have hnodup := nodup_names index leg
  have hnames := hnodup
  rw [List.map_append] at hnames
  have hcommon := Json.perm_toMap hnames.of_append_left
  have hkind := Json.perm_toMap hnames.of_append_right
  have hmaps := hcommon.append hkind
  exact (Json.perm_extend ((hmaps.map (·.1)).nodup_iff.mpr hnodup)).trans hmaps

end

/-! ## The feature of a leg -/

section
variable {decode : List UInt8 → Except String Geometry} {index : Nat} {leg : Leg Float}
  {geometry : Option Geometry}

theorem mem_names_properties (name : String) :
    name ∈ (leg.properties index).map (·.1) ↔
      name ∈ ["step_index", "transport_mode", "costs", "leg_type"] ++ leg.kind.propertyNames := by
  rw [((perm_properties index leg).map _).mem_iff]
  unfold Leg.commonProperties LegKind.properties LegKind.propertyNames
  cases leg.kind <;> simp

/-- A distance is finite, so it is never `null` among properties. -/
theorem ofReal_kilometers (distance : Kilometers) :
    Json.ofReal distance.value = .real distance.value := by
  have hvalid := distance.valid
  rw [isLength, Bool.and_eq_true] at hvalid
  rw [Json.ofReal, if_pos hvalid.1]

theorem LegKind.shownBy_properties (kind : LegKind) : kind.ShownBy kind.properties := by
  cases kind with
  | road leg =>
    refine ⟨by simp [properties, Json.ofInt64], by simp [properties],
      by simp [properties, Json.ofMovement], ?_⟩
    split
    · rename_i distance hdistance
      simp [properties, hdistance, TraversedDistance.km?, Json.ofOption, ofReal_kilometers]
    · rename_i hdistance
      simp [properties, hdistance, TraversedDistance.km?, Json.ofOption]
  | transit leg => simp [ShownBy, properties, Json.ofInt64]
  | transfer leg => simp [ShownBy, properties, Json.ofInt64]

theorem LegKind.ShownBy.mono {kind : LegKind} {own all : List (String × Json)}
    (h : kind.ShownBy own) (hsub : own ⊆ all) : kind.ShownBy all := by
  cases kind with
  | road leg =>
    obtain ⟨hsection, hname, hmovement, hdistance⟩ := h
    refine ⟨hsub hsection, hsub hname, hsub hmovement, ?_⟩
    split at hdistance
    · exact hsub hdistance
    · exact hsub hdistance
  | transit leg =>
    obtain ⟨hnetwork, hroute, htrip, hfrom, hto, hwait, hdeparture, harrival⟩ := h
    exact ⟨hsub hnetwork, hsub hroute, hsub htrip, hsub hfrom, hsub hto, hsub hwait,
      hsub hdeparture, hsub harrival⟩
  | transfer leg => exact ⟨hsub h.1, hsub h.2.1, hsub h.2.2⟩

theorem shape_eq_ok_iff :
    leg.shape decode = .ok geometry ↔
      match leg.geometry with
      | some octets => ∃ g, decode octets = .ok g ∧ geometry = some g
      | none => geometry = none := by
  unfold Leg.shape
  cases leg.geometry with
  | none => simp [eq_comm]
  | some octets =>
    cases hdecode : decode octets with
    | error text => simp [hdecode, Except.mapError, Except.map]
    | ok g => simp [hdecode, Except.mapError, Except.map, eq_comm]

/-- What the feature of a leg says. -/
theorem Feature.shows_of_leg (h : leg.shape decode = .ok geometry) :
    Feature.Shows decode index leg ⟨geometry, leg.properties index⟩ := by
  have hperm := perm_properties index leg
  have hcommon : leg.commonProperties index ⊆ leg.properties index :=
    fun _ hmember => hperm.symm.subset (List.mem_append_left _ hmember)
  have hkind : leg.kind.properties ⊆ leg.properties index :=
    fun _ hmember => hperm.symm.subset (List.mem_append_right _ hmember)
  exact {
    geometry := shape_eq_ok_iff.mp h
    isMap := Json.isMap_extend (Json.isMap_toMap _) _
    names := mem_names_properties
    index := hcommon (by simp [Leg.commonProperties, Json.ofNat])
    mode := hcommon (by simp [Leg.commonProperties, Json.ofInt64])
    costs := ⟨Json.toMap leg.costs.members,
      hcommon (by simp [Leg.commonProperties, Json.ofCostMap, Costs.members]),
      leg.costs.shownBy_toMap⟩
    type := hkind (by
      unfold LegKind.properties
      cases leg.kind <;> simp [LegKind.type, LegType.name])
    kind := leg.kind.shownBy_properties.mono hkind }

end

/-! ## The features of legs -/

section
variable (decode : List UInt8 → Except String Geometry)

/-- Why the geometry of a leg cannot be decoded, if it cannot. -/
def undecodable? (leg : Leg Float) : Option String :=
  match leg.geometry.map decode with
  | some (.error text) => some text
  | _ => none

def decoded? (leg : Leg Float) : Option Geometry :=
  match leg.geometry.map decode with
  | some (.ok geometry) => some geometry
  | _ => none

def featureAt (index : Nat) (leg : Leg Float) : Feature :=
  ⟨decoded? decode leg, leg.properties index⟩

end

variable {decode : List UInt8 → Except String Geometry} {legs : List (Leg Float)} {text : String}

theorem shape_eq (decode : List UInt8 → Except String Geometry) (leg : Leg Float) :
    leg.shape decode =
      match undecodable? decode leg with
      | some text => .error (.geometry text)
      | none => .ok (decoded? decode leg) := by
  unfold Leg.shape undecodable? decoded?
  cases leg.geometry with
  | none => rfl
  | some octets =>
    simp only [Option.map_some]
    cases decode octets <;> rfl

theorem undecodable?_eq_some_iff {leg : Leg Float} :
    undecodable? decode leg = some text ↔
      ∃ octets, leg.geometry = some octets ∧ decode octets = .error text := by
  unfold undecodable?
  cases leg.geometry with
  | none => simp
  | some octets => cases hdecode : decode octets <;> simp [hdecode]

theorem undecodable?_eq_none_iff {leg : Leg Float} :
    undecodable? decode leg = none ↔
      ∀ octets, leg.geometry = some octets → ∃ geometry, decode octets = .ok geometry := by
  unfold undecodable?
  cases leg.geometry with
  | none => simp
  | some octets => cases hdecode : decode octets <;> simp [hdecode]

/-- An export ends at the first leg whose geometry cannot be decoded; otherwise every leg has its
feature. -/
theorem featuresFrom_eq (index : Nat) (legs : List (Leg Float)) :
    featuresFrom decode index legs =
      match legs.findSome? (undecodable? decode) with
      | some text => .error (.geometry text)
      | none => .ok ((legs.zipIdx index).map fun (leg, i) => featureAt decode i leg) := by
  induction legs generalizing index with
  | nil => rfl
  | cons leg rest ih =>
    rw [featuresFrom, shape_eq, ih, List.findSome?_cons]
    cases undecodable? decode leg with
    | some text => rfl
    | none =>
      cases rest.findSome? (undecodable? decode) with
      | some text => rfl
      | none => rfl

theorem findSome?_undecodable?_eq_some_iff :
    legs.findSome? (undecodable? decode) = some text ↔ FirstUndecodable decode legs text := by
  simp only [List.findSome?_eq_some_iff, FirstUndecodable, undecodable?_eq_some_iff,
    undecodable?_eq_none_iff]

/-! ## Legs counted from further on -/

theorem movedValue_of_ne {name : String} (h : name ≠ "step_index") (places : Nat) (value : Json) :
    movedValue places name value = value := by
  unfold movedValue
  split
  · rw [if_neg h]
  · rfl

/-- Only the place in the common properties is moved. -/
theorem properties_add (index places : Nat) (leg : Leg Float) :
    leg.properties (index + places) =
      Json.mapValues (movedValue places) (leg.properties index) := by
  rw [Leg.properties, Leg.properties, Json.mapValues_extend, Json.mapValues_toMap,
    Json.mapValues_toMap]
  have hcommon : Json.mapValues (movedValue places) (leg.commonProperties index) =
      leg.commonProperties (index + places) := by
    simp [Json.mapValues, Leg.commonProperties, Json.ofNat, movedValue_of_ne]
    simp [movedValue]
  have hkind : Json.mapValues (movedValue places) leg.kind.properties = leg.kind.properties := by
    unfold LegKind.properties
    cases leg.kind <;> simp [Json.mapValues, movedValue_of_ne]
  rw [hcommon, hkind]

theorem featureAt_add (index places : Nat) (leg : Leg Float) :
    featureAt decode (index + places) leg = (featureAt decode index leg).moved places := by
  rw [featureAt, properties_add]
  rfl

theorem map_featureAt_zipIdx_add (index places : Nat) (legs : List (Leg Float)) :
    ((legs.zipIdx (index + places)).map fun (leg, i) => featureAt decode i leg) =
      ((legs.zipIdx index).map fun (leg, i) => featureAt decode i leg).map
        (Feature.moved places) := by
  induction legs generalizing index with
  | nil => rfl
  | cons leg rest ih =>
    simp only [List.zipIdx_cons, List.map_cons, featureAt_add]
    rw [Nat.add_right_comm, ih]

namespace Itinerary

variable {it : Itinerary Float} {failure : Failure} {features : List Feature}

theorem features_eq_error_iff :
    it.features decode = .error failure ↔
      ∃ text, failure = .geometry text ∧ FirstUndecodable decode it.legs text := by
  simp only [← findSome?_undecodable?_eq_some_iff]
  rw [Itinerary.features, featuresFrom_eq]
  cases it.legs.findSome? (undecodable? decode) with
  | some text => simp [eq_comm]
  | none => simp

/-- A leg of an exported itinerary has its feature at its own place. -/
theorem shows_of_features_eq_ok (h : it.features decode = .ok features) :
    features.length = it.size ∧
      ∀ index leg, it.legs[index]? = some leg →
        ∃ f, features[index]? = some f ∧ Feature.Shows decode index leg f := by
  rw [Itinerary.features, featuresFrom_eq] at h
  cases hfirst : it.legs.findSome? (undecodable? decode) with
  | some text => simp [hfirst] at h
  | none =>
    simp only [hfirst, Except.ok.injEq] at h
    subst h
    refine ⟨by simp [size], fun index leg hleg => ⟨featureAt decode index leg, ?_, ?_⟩⟩
    · simp [List.getElem?_map, List.getElem?_zipIdx, hleg]
    · have hdecodes := List.findSome?_eq_none_iff.mp hfirst leg (List.mem_of_getElem? hleg)
      exact Feature.shows_of_leg (by rw [shape_eq, hdecodes])

theorem features_append (decode : List UInt8 → Except String Geometry)
    (it other : Itinerary Float) :
    ({ it with legs := it.legs ++ other.legs } : Itinerary Float).features decode = (do
      let first ← it.features decode
      let second ← other.features decode
      return first ++ second.map (Feature.moved it.size)) := by
  unfold Itinerary.features
  simp only [featuresFrom_eq, List.findSome?_append]
  cases it.legs.findSome? (undecodable? decode) with
  | some text => rfl
  | none =>
    cases other.legs.findSome? (undecodable? decode) with
    | some text => rfl
    | none =>
      rw [List.zipIdx_append, List.map_append, map_featureAt_zipIdx_add]
      rfl

theorem toGeoJsonWith_eq (decode : List UInt8 → Except String Geometry) (it : Itinerary Float) :
    it.toGeoJsonWith decode = (it.features decode).map fun features =>
      .obj [("type", .str "FeatureCollection"),
        ("features", .arr (features.map Feature.toJson))] := by
  rw [toGeoJsonWith]
  cases it.features decode <;> rfl

/-- An export fails exactly if a geometry cannot be decoded, with the first that cannot. Otherwise
every leg has its feature, in order, and the features are what is exported. The features of two
itineraries in a row are those of the first and those of the second, counted on. -/
theorem features_faithful (decode : List UInt8 → Except String Geometry) (it : Itinerary Float) :
    (∀ failure, it.features decode = .error failure ↔
      ∃ text, failure = .geometry text ∧ FirstUndecodable decode it.legs text) ∧
    (∀ features, it.features decode = .ok features →
      features.length = it.size ∧
        ∀ index leg, it.legs[index]? = some leg →
          ∃ f, features[index]? = some f ∧ Feature.Shows decode index leg f) ∧
    (∀ other : Itinerary Float,
      ({ it with legs := it.legs ++ other.legs } : Itinerary Float).features decode = (do
        let first ← it.features decode
        let second ← other.features decode
        return first ++ second.map (Feature.moved it.size))) ∧
    it.toGeoJsonWith decode = (it.features decode).map fun features =>
      .obj [("type", .str "FeatureCollection"), ("features", .arr (features.map fun f =>
        .obj [("type", .str "Feature"), ("geometry", Json.ofOption Geometry.toJson f.geometry),
          ("properties", .obj f.properties)]))] :=
  ⟨fun _ => features_eq_error_iff, fun _ => shows_of_features_eq_ok, features_append decode it,
    toGeoJsonWith_eq decode it⟩

/-- Octets that are decoded if there is one of them. -/
private def oneOctet : List UInt8 → Except String Geometry
  | [_] => .ok (.point default)
  | [] => .error "nothing"
  | _ => .error "too much"

private def transferAt (geometry : Option (List UInt8)) : Leg Float :=
  { Leg.new (.transfer default) 1 with geometry }

/-- An itinerary of two legs, taken twice, has four features. With two legs more that cannot be
decoded, the first of them is reported. -/
theorem features_faithful_twice :
    let it : Itinerary Float := ⟨[transferAt (some [1]), transferAt none], .epoch, none⟩
    let twice : Itinerary Float := { it with legs := it.legs ++ it.legs }
    let longer := (it.add (transferAt (some []))).add (transferAt (some [1, 2]))
    (∃ features, twice.features oneOctet = .ok features ∧ features.length = 4 ∧
      ∃ f, features[3]? = some f ∧ Feature.Shows oneOctet 3 (transferAt none) f) ∧
    FirstUndecodable oneOctet longer.legs "nothing" := by
  intro it twice longer
  obtain ⟨-, hok, -⟩ := features_faithful oneOctet twice
  obtain ⟨herror, -, -⟩ := features_faithful oneOctet longer
  have htwice : twice.features oneOctet = .ok _ := rfl
  have hlonger : longer.features oneOctet = .error (.geometry "nothing") := rfl
  obtain ⟨hlength, hshows⟩ := hok _ htwice
  obtain ⟨text, htext, hfirst⟩ := (herror _).mp hlonger
  cases htext
  exact ⟨⟨_, htwice, hlength, hshows 3 _ rfl⟩, hfirst⟩

end Itinerary

end Multimodal
