import Multimodal.Proofs.StationLinks

/-!
# Networks told by ids

Handles only say in which order an import met its rows. Told by ids, a network is a list of records
in which every handle is replaced by the id behind it, and what is found under an id is one of these
records.

A network that holds rows has the records that they give, in their order
(`Network.HoldsRoads.sectionRecords_eq`, `TransitNetwork.Holds.connectionRecords_eq`,
`stopRecords_importedTransit`), and what is found under an id is the record of the row with that id
(`IdIndex.Lists.find_eq_some_iff`).
-/
namespace Multimodal

/-! ## Records -/

/-- A road section with the ids of its nodes. -/
structure SectionRecord where
  source : Option RecordId
  target : Option RecordId
  label : RoadSection

/-- A stop with the ids of its road section and its station. -/
structure StopRecord where
  id : RecordId
  name : String
  isStation : Bool
  zone : String
  abscissa : Float
  roadSection : Option RecordId
  hasStation : Bool
  station : Option RecordId

/-- A connection, told by the ids of its stops. -/
structure ConnectionRecord where
  source : Option RecordId
  target : Option RecordId

namespace Network

def nodeIdAt? (n : Network) (handle : Handle) : Option RecordId :=
  (n.road.vertex? handle).map (·.id)

def sectionIdAt? (n : Network) (handle : Handle) : Option RecordId :=
  (n.road.arc? handle).map (·.label.id)

/-- The record of a section. -/
def sectionRecord (n : Network) (arc : Arc RoadSection) : SectionRecord :=
  ⟨n.nodeIdAt? arc.source, n.nodeIdAt? arc.target, arc.label⟩

def sectionRecords (n : Network) : List SectionRecord := n.road.arcs.toList.map n.sectionRecord

def findNode (n : Network) (id : RecordId) : Option RoadNode :=
  (n.nodeIndex.get? id).bind n.road.vertex?

def findSection (n : Network) (id : RecordId) : Option SectionRecord :=
  ((n.sectionIndex.get? id).bind n.road.arc?).map n.sectionRecord

end Network

namespace TransitNetwork

def stopIdAt? (t : TransitNetwork) (handle : Handle) : Option RecordId :=
  (t.stop? handle).map (·.id)

/-- The record of a stop, placed on the roads of `n`. -/
def stopRecord (n : Network) (t : TransitNetwork) (stop : Stop) : StopRecord where
  id := stop.id
  name := stop.name
  isStation := stop.isStation
  zone := stop.zone
  abscissa := stop.abscissa
  roadSection := n.sectionIdAt? stop.roadSection
  hasStation := stop.hasParent
  station := stop.parent.bind t.stopIdAt?

def stopRecords (n : Network) (t : TransitNetwork) : List StopRecord :=
  t.graph.vertices.toList.map (t.stopRecord n)

def findStop (n : Network) (t : TransitNetwork) (id : RecordId) : Option StopRecord :=
  ((t.find? id).bind t.stop?).map (t.stopRecord n)

def connectionRecords (t : TransitNetwork) : List ConnectionRecord :=
  t.graph.arcs.toList.map fun arc => ⟨t.stopIdAt? arc.source, t.stopIdAt? arc.target⟩

end TransitNetwork

/-! ## Records of rows -/

def SectionRow.label (row : SectionRow) : RoadSection where
  id := row.id
  roadType := row.roadType.bind fun code => RoadType.ofCode? code.toInt
  forwardModes := ⟨row.forwardModes⟩
  backwardModes := ⟨row.backwardModes⟩
  length := row.length
  carSpeedLimit := row.carSpeedLimit
  carAverageSpeed := row.carAverageSpeed
  transitAverageSpeed := row.transitAverageSpeed
  roadName := row.roadName
  leftAddresses := row.leftAddresses
  rightAddresses := row.rightAddresses
  lanes := row.lanes
  isRoundabout := row.isRoundabout
  isBridge := row.isBridge
  isTunnel := row.isTunnel
  isRamp := row.isRamp
  isTollway := row.isTollway

def SectionRow.record (row : SectionRow) : SectionRecord :=
  ⟨some row.nodeFrom, some row.nodeTo, row.label⟩

/-- The id of the station of a stop: the one it declares, if another of `stops` has it. -/
def StopRow.stationId? (stops : List RecordId) (row : StopRow) : Option RecordId :=
  row.parentId.filter fun id => stops.contains id && id != row.id

/-- Only which ids there are matters. -/
theorem StopRow.stationId?_congr {ids others : List RecordId} (h : ∀ id, id ∈ ids ↔ id ∈ others)
    (row : StopRow) : row.stationId? ids = row.stationId? others := by
  simp only [stationId?, List.contains_eq_mem, h]

/-- The record of a stop row, `stops` being the ids of all stops of its network. -/
def StopRow.record (stops : List RecordId) (row : StopRow) : StopRecord where
  id := row.id
  name := row.name
  isStation := row.isStation
  zone := row.zone
  abscissa := row.abscissa
  roadSection := some row.roadSection
  hasStation := (row.stationId? stops).isSome
  station := row.stationId? stops

def ConnectionRow.record (row : ConnectionRow) : ConnectionRecord :=
  ⟨some row.stopFrom, some row.stopTo⟩

theorem SectionRow.Describes.eq_label {row : SectionRow} {s : RoadSection}
    (h : row.Describes s) : s = row.label := by
  obtain ⟨_, _, ⟨_⟩, ⟨_⟩, _⟩ := s
  obtain ⟨rfl, rfl, rfl, rfl, rfl, rfl, rfl, rfl, rfl, rfl, rfl, rfl, rfl, rfl, rfl, rfl, rfl⟩ := h
  rfl

/-- What is found under an id comes from the row with that id. -/
theorem IdIndex.Lists.find_eq_some_iff {ρ β γ : Type} {index : IdIndex} {kind : RecordKind}
    {rows : List ρ} {key : ρ → RecordId} (h : index.Lists kind (rows.map key)) {items : Array β}
    {f : β → γ} {record : ρ → γ} (hrecords : items.toList.map f = rows.map record) (id : RecordId)
    (found : γ) :
    ((index.get? id).bind fun handle => items[handle]?).map f = some found ↔
      ∃ row ∈ rows, key row = id ∧ record row = found := by
  have hitem : ∀ handle : Nat, items[handle]?.map f = rows[handle]?.map record := by
    intro handle
    rw [← Array.getElem?_toList, ← List.getElem?_map, hrecords, List.getElem?_map]
  simp only [Option.map_bind, Function.comp_def, hitem, Option.bind_eq_some_iff, h.get?_eq_some,
    List.getElem?_map, Option.map_eq_some_iff]
  constructor
  · rintro ⟨handle, ⟨row, hrow, hid⟩, same, hsame, hfound⟩
    obtain rfl : row = same := Option.some.inj (hrow.symm.trans hsame)
    exact ⟨row, List.mem_of_getElem? hrow, hid, hfound⟩
  · rintro ⟨row, hmem, hid, hfound⟩
    obtain ⟨handle, hrow⟩ := List.mem_iff_getElem?.mp hmem
    exact ⟨handle, ⟨row, hrow, hid⟩, row, hrow, hfound⟩

namespace Network

variable {nodes : List NodeRow} {sections : List SectionRow} {n : Network}

theorem HoldsRoads.nodeIdAt?_eq (h : n.HoldsRoads nodes sections) (handle : Handle) :
    n.nodeIdAt? handle = (nodes.map (·.id))[handle]? := by
  rw [nodeIdAt?, h.vertex?_eq, Option.map_map, List.getElem?_map]
  rfl

theorem HoldsRoads.sectionIdAt?_eq (h : n.HoldsRoads nodes sections) (handle : Handle) :
    n.sectionIdAt? handle = (sections.map (·.id))[handle]? := by
  have hids : n.road.arcs.toList.map (·.label.id) = sections.map (·.id) :=
    map_eq_map_of_forall₂_eq (fun _ _ harc => harc.label.id) h.arcs
  rw [sectionIdAt?, Digraph.arc?, ← Array.getElem?_toList, ← List.getElem?_map, hids]

theorem HoldsRoads.sectionRecords_eq (h : n.HoldsRoads nodes sections) :
    n.sectionRecords = sections.map SectionRow.record := by
  refine map_eq_map_of_forall₂_eq (fun row arc harc => ?_) h.arcs
  rw [sectionRecord, h.nodeIdAt?_eq, h.nodeIdAt?_eq, harc.source, harc.target,
    harc.label.eq_label]
  rfl

theorem HoldsRoads.findNode_eq_some_iff (h : n.HoldsRoads nodes sections) (id : RecordId)
    (node : RoadNode) :
    n.findNode id = some node ↔ ∃ row ∈ nodes, row.id = id ∧ row.node = node := by
  have hvertices : n.road.vertices.toList.map (fun node => node) = nodes.map NodeRow.node := by
    rw [List.map_id', h.vertices]
  rw [← h.nodeIndex.find_eq_some_iff hvertices id node, Option.map_id']
  rfl

theorem HoldsRoads.findSection_eq_some_iff (h : n.HoldsRoads nodes sections) (id : RecordId)
    (record : SectionRecord) :
    n.findSection id = some record ↔ ∃ row ∈ sections, row.id = id ∧ row.record = record :=
  h.sectionIndex.find_eq_some_iff h.sectionRecords_eq id record

end Network

namespace TransitNetwork

variable {sections : List RecordId} {rows : TransitRows} {t : TransitNetwork}

theorem Holds.stopIdAt?_eq (h : t.Holds sections rows) (handle : Handle) :
    t.stopIdAt? handle = (rows.stops.map (·.id))[handle]? := by
  have hids : t.graph.vertices.toList.map (·.id) = rows.stops.map (·.id) :=
    map_eq_map_of_forall₂_eq (fun _ _ hstop => hstop.describes.id) h.stops
  rw [stopIdAt?, stop?, Digraph.vertex?, ← Array.getElem?_toList, ← List.getElem?_map, hids]

theorem Holds.connectionRecords_eq (h : t.Holds sections rows) :
    t.connectionRecords = rows.connections.map ConnectionRow.record := by
  refine map_eq_map_of_forall₂_eq (fun row arc harc => ?_) h.arcs
  rw [h.stopIdAt?_eq, h.stopIdAt?_eq, harc.source, harc.target]
  rfl

/-- Two passes link a stop to the station whose id its record has. -/
theorem Holds.stationId?_eq_some_iff (h : t.Holds sections rows) {handle : Handle} {row : StopRow}
    (hrow : rows.stops[handle]? = some row) (id : RecordId) :
    row.stationId? (rows.stops.map (·.id)) = some id ↔
      ∃ station, row.station? .twoPass t.find? handle = some station ∧
        t.stopIdAt? station = some id := by
  have hself : (rows.stops.map (·.id))[handle]? = some row.id := by
    rw [List.getElem?_map, hrow]
    rfl
  simp only [StopRow.stationId?, Option.filter_eq_some_iff, Bool.and_eq_true,
    List.contains_iff_mem, bne_iff_ne, StopRow.station?_eq_some_iff, StationLinking.admits,
    decide_eq_true_eq, h.stopIdAt?_eq]
  constructor
  · rintro ⟨hparent, hmem, hother⟩
    obtain ⟨station, hstation⟩ := List.mem_iff_getElem?.mp hmem
    refine ⟨station, ⟨id, hparent, (h.stopIndex.get?_eq_some id station).mpr hstation, ?_⟩,
      hstation⟩
    rintro rfl
    exact hother (Option.some.inj (hstation.symm.trans hself))
  · rintro ⟨station, ⟨declared, hparent, hfind, hother⟩, hid⟩
    have hstation := (h.stopIndex.get?_eq_some declared station).mp hfind
    obtain rfl : declared = id := Option.some.inj (hstation.symm.trans hid)
    refine ⟨hparent, List.mem_of_getElem? hstation, ?_⟩
    rintro rfl
    exact hother (h.stopIndex.place_unique hstation hself)

theorem Holds.isNone_station? (h : t.Holds sections rows) {handle : Handle} {row : StopRow}
    (hrow : rows.stops[handle]? = some row) :
    (row.station? .twoPass t.find? handle).isNone =
      (row.stationId? (rows.stops.map (·.id))).isNone := by
  have hiff := h.stationId?_eq_some_iff hrow
  cases hstation : row.station? .twoPass t.find? handle with
  | none =>
    have hnone : row.stationId? (rows.stops.map (·.id)) = none := by
      rw [Option.eq_none_iff_forall_ne_some]
      intro id hid
      obtain ⟨station, hsome, -⟩ := (hiff id).mp hid
      exact absurd (hstation.symm.trans hsome) (Option.some_ne_none station).symm
    rw [hnone]
    rfl
  | some station =>
    obtain ⟨id, -, hfind, -⟩ := StopRow.station?_eq_some_iff.mp hstation
    have hid : t.stopIdAt? station = some id := by
      rw [h.stopIdAt?_eq]
      exact (h.stopIndex.get?_eq_some id station).mp hfind
    rw [(hiff id).mpr ⟨station, hstation, hid⟩]
    rfl

/-- A stop has the record of its row, if it lies on the roads of `n` and two passes linked it. -/
theorem Holds.stopRecord_eq {nodes : List NodeRow} {sectionRows : List SectionRow} {n : Network}
    (hroads : n.HoldsRoads nodes sectionRows) (h : t.Holds (sectionRows.map (·.id)) rows)
    {handle : Handle} {row : StopRow} (hrow : rows.stops[handle]? = some row) {stop : Stop}
    (hstop : row.Becomes (sectionRows.map (·.id)) stop)
    (hstation : stop.parent = row.station? .twoPass t.find? handle) :
    t.stopRecord n stop = row.record (rows.stops.map (·.id)) := by
  have hplace : n.sectionIdAt? stop.roadSection = some row.roadSection := by
    rw [hroads.sectionIdAt?_eq]
    exact hstop.roadSection
  have hid : stop.parent.bind t.stopIdAt? = row.stationId? (rows.stops.map (·.id)) := by
    apply Option.ext
    intro id
    rw [hstation, Option.bind_eq_some_iff]
    exact (h.stationId?_eq_some_iff hrow id).symm
  have hhas : stop.hasParent = (row.stationId? (rows.stops.map (·.id))).isSome := by
    rw [Stop.hasParent, hstation, ← Option.not_isNone, h.isNone_station? hrow, Option.not_isNone]
  rw [stopRecord, hplace, hhas, hid, hstop.describes.id, hstop.describes.name,
    hstop.describes.isStation, hstop.describes.zone, hstop.describes.abscissa]
  rfl

end TransitNetwork

section
variable {nodes : List NodeRow} {sectionRows : List SectionRow} {n : Network}
  (hroads : n.HoldsRoads nodes sectionRows) (rows : TransitRows)
include hroads

theorem stopRecords_importedTransit :
    (importedTransit .twoPass n.sectionIndex rows).stopRecords n =
      (validStops (sectionRows.map (·.id)) rows.stops).map
        (StopRow.record ((validStops (sectionRows.map (·.id)) rows.stops).map (·.id))) := by
  have h := holds_importedTransit hroads.sectionIndex .twoPass rows
  apply List.ext_getElem?
  intro handle
  rw [TransitNetwork.stopRecords, List.getElem?_map, List.getElem?_map, Array.getElem?_toList]
  cases hrow : (validStops (sectionRows.map (·.id)) rows.stops)[handle]? with
  | none =>
    have hnone : (importedTransit .twoPass n.sectionIndex rows).stop? handle = none := by
      rw [TransitNetwork.stop?, Digraph.vertex?, Array.getElem?_eq_none_iff, ← Digraph.order,
        h.order_eq]
      exact List.getElem?_eq_none_iff.mp hrow
    exact congrArg (Option.map _) hnone
  | some row =>
    obtain ⟨stop, hstop, hbecomes⟩ := h.stop?_of_row hrow
    have hstation := station?_importedTransit hroads.sectionIndex .twoPass rows handle
    rw [hrow, Option.bind_some, TransitNetwork.station?, hstop, Option.bind_some] at hstation
    refine (congrArg (Option.map _) hstop).trans ?_
    rw [Option.map_some, Option.map_some, h.stopRecord_eq hroads hrow hbecomes hstation]
    rfl

theorem findStop_importedTransit (id : RecordId) (record : StopRecord) :
    (importedTransit .twoPass n.sectionIndex rows).findStop n id = some record ↔
      ∃ row ∈ validStops (sectionRows.map (·.id)) rows.stops, row.id = id ∧
        row.record ((validStops (sectionRows.map (·.id)) rows.stops).map (·.id)) = record :=
  (holds_importedTransit hroads.sectionIndex .twoPass rows).stopIndex.find_eq_some_iff
    (stopRecords_importedTransit hroads rows) id record

end

section
variable {index : IdIndex} {sections : List RecordId} (hindex : index.Lists .roadSection sections)
  (rows : TransitRows)
include hindex

/-- The stops without the station they declare, told by ids. -/
theorem unresolved_settledStops_twoPass :
    (settledStops .twoPass index rows).unresolved =
      (validStops sections rows.stops).countP fun row =>
        row.parentId.isSome &&
          (row.stationId? ((validStops sections rows.stops).map (·.id))).isNone := by
  have h := holds_importedTransit hindex .twoPass rows
  have hrows := List.zipIdx_map_fst 0 (validStops sections rows.stops)
  rw [unresolved_settledStops hindex, stations_importedTransit hindex, stationless, stationsOf]
  nth_rewrite 1 [← hrows]
  refine Eq.trans ?_ (congrArg (List.countP _) hrows)
  rw [List.zip_map', List.countP_map, List.countP_map]
  apply List.countP_congr
  rintro ⟨row, handle⟩ hmem
  have hrow : (validStops sections rows.stops)[handle]? = some row :=
    List.mem_zipIdx_iff_getElem?.mp hmem
  simp only [Function.comp_apply, h.isNone_station? hrow]
  rfl

end

end Multimodal
