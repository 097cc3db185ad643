import Multimodal.Proofs.Imported

/-!
# The stations of stops

A stop that declares a station gets it if the station is another stop of its network that can be
found at the moment of linking. With one pass over the stops only the stops above can be found, with
two passes all of them; this is the only difference between the two (`StationLinking.admits`).

* `stations_importedTransit`: the stations of an imported network, told from its stop rows.
* `unresolved_settledStops`: how many of its stops stay without the station they declare.
* `TransitNetwork.Holds.withoutStations_eq`: apart from stations a network is determined by its
  rows.
-/
namespace Multimodal

/-! ## Which station a row gives -/

/-- Whether a stop can be linked to a station. No stop is its own station, and a single pass has
not seen the stops below yet. -/
def StationLinking.admits : StationLinking → Handle → Handle → Bool
  | .singlePass, stop, station => decide (station < stop)
  | .twoPass, stop, station => decide (station ≠ stop)

/-- The station of the stop of a row, `find?` finding the stops of its network. -/
def StopRow.station? (linking : StationLinking) (find? : RecordId → Option Handle) (row : StopRow)
    (stop : Handle) : Option Handle :=
  (row.parentId.bind find?).filter (linking.admits stop)

/-- The stations of the stops of rows, the first of which has the handle `first`. -/
def stationsOf (linking : StationLinking) (find? : RecordId → Option Handle) (first : Handle)
    (stops : List StopRow) : List (Option Handle) :=
  (stops.zipIdx first).map fun (row, stop) => row.station? linking find? stop

/-- The number of rows that declare a station and have none. -/
def stationless (stops : List StopRow) (stations : List (Option Handle)) : Nat :=
  (stops.zip stations).countP fun (row, station) => row.parentId.isSome && station.isNone

/-- What the rows say about stations, the first row's stop having the handle `first`. -/
def claimsOf (first : Handle) (stops : List StopRow) : List StationClaim :=
  (stops.zipIdx first).filterMap fun (row, stop) => row.parentId.map (⟨stop, row.id, ·⟩)

theorem StopRow.station?_eq_none_of_parentId {linking : StationLinking}
    {find? : RecordId → Option Handle} {row : StopRow} (h : row.parentId = none) (stop : Handle) :
    row.station? linking find? stop = none := by
  simp [station?, h]

theorem StopRow.station?_eq_some_iff {linking : StationLinking} {find? : RecordId → Option Handle}
    {row : StopRow} {stop station : Handle} :
    row.station? linking find? stop = some station ↔
      ∃ id, row.parentId = some id ∧ find? id = some station ∧
        linking.admits stop station = true := by
  simp only [station?, Option.filter_eq_some_iff, Option.bind_eq_some_iff]
  constructor
  · rintro ⟨⟨id, hid, hfind⟩, hadmits⟩
    exact ⟨id, hid, hfind, hadmits⟩
  · rintro ⟨id, hid, hfind, hadmits⟩
    exact ⟨⟨id, hid, hfind⟩, hadmits⟩

/-- The last stop can be linked to the same stations in one pass and in two. -/
theorem StopRow.station?_last {find? : RecordId → Option Handle} {row : StopRow} {last : Handle}
    (hfind : ∀ id station, find? id = some station → station ≤ last) :
    row.station? .singlePass find? last = row.station? .twoPass find? last := by
  apply Option.ext
  intro station
  simp only [station?_eq_some_iff, StationLinking.admits, decide_eq_true_eq]
  constructor
  · rintro ⟨id, hid, hstation, hlt⟩
    exact ⟨id, hid, hstation, Nat.ne_of_lt hlt⟩
  · rintro ⟨id, hid, hstation, hne⟩
    exact ⟨id, hid, hstation, Nat.lt_of_le_of_ne (hfind id station hstation) hne⟩

/-! ## One claim -/

theorem map_modify_eq_set {α β : Type} {f : α → α} {g : α → β} {b : β} (h : ∀ a, g (f a) = b)
    (xs : List α) (i : Nat) : (xs.modify i f).map g = (xs.map g).set i b := by
  induction xs generalizing i with
  | nil => simp
  | cons x rest ih =>
    cases i with
    | zero => simp [h]
    | succ i => simp [ih]

namespace TransitNetwork

def stations (n : TransitNetwork) : List (Option Handle) :=
  n.graph.vertices.toList.map (·.parent)

def withStation (n : TransitNetwork) (stop station : Handle) : TransitNetwork :=
  { n with graph := n.graph.mapVertex stop fun s => { s with parent := some station } }

variable {n next : TransitNetwork}

theorem length_stations (n : TransitNetwork) : n.stations.length = n.stopCount := by
  simp [stations, stopCount, Digraph.order]

@[simp] theorem find?_withStation (n : TransitNetwork) (stop station : Handle) :
    (n.withStation stop station).find? = n.find? := rfl

@[simp] theorem stopCount_withStation (n : TransitNetwork) (stop station : Handle) :
    (n.withStation stop station).stopCount = n.stopCount := by
  simp [stopCount, withStation, Digraph.mapVertex, Digraph.order]

theorem stations_withStation (n : TransitNetwork) (stop station : Handle) :
    (n.withStation stop station).stations = n.stations.set stop (some station) := by
  simp only [stations, withStation, Digraph.mapVertex, Array.toList_modify]
  apply map_modify_eq_set
  intro s
  rfl

theorem stations_addStop {stop : Stop} {handle : Handle}
    (h : n.addStop stop = .ok (next, handle)) : next.stations = n.stations ++ [stop.parent] := by
  simp only [addStop, Digraph.addVertex] at h
  split at h
  · cases h
  · cases hreg : n.stopIndex.register stop.id n.graph.order with
    | error failure => simp [hreg, bind, Except.bind] at h
    | ok index =>
      simp only [hreg, bind, Except.bind, pure, Except.pure, Except.ok.injEq, Prod.mk.injEq] at h
      obtain ⟨rfl, -⟩ := h
      simp [stations]

theorem stations_acceptStop {index : IdIndex} {position : Nat} {row : StopRow} {handle : Handle}
    (h : n.acceptStop index position row = .ok (next, handle)) :
    next.stations = n.stations ++ [none] := by
  simp only [acceptStop, bind, Except.bind, IdIndex.follow] at h
  cases hfind : n.find? row.id with
  | some handle => simp [hfind, throw, throwThe, MonadExceptOf.throw] at h
  | none =>
    cases hplaced : row.isPlaced with
    | false => simp [hfind, hplaced, throw, throwThe, MonadExceptOf.throw] at h
    | true =>
      cases hsection : index.get? row.roadSection with
      | none => simp [hfind, hplaced, hsection] at h
      | some place =>
        have hadd : n.addStop (row.stop place) = .ok (next, handle) := by
          simpa [hfind, hplaced, hsection] using h
        exact stations_addStop hadd

end TransitNetwork

namespace StopIntake

/-- A claim is followed if its station is found and can be linked, and counted otherwise. -/
theorem fst_link {s : StopIntake} (hfind : ∀ id station, s.network.find? id = some station →
      station < s.network.stopCount)
    {row : StopRow} {stop : Handle} {id : RecordId} (hid : row.parentId = some id)
    (hstop : stop < s.network.stopCount) :
    (s.link ⟨stop, row.id, id⟩).1 =
      match row.station? .twoPass s.network.find? stop with
      | some station => { s with network := s.network.withStation stop station }
      | none => { s with unresolved := s.unresolved + 1 } := by
  simp only [link, StopRow.station?, hid, Option.bind_some]
  cases hstation : s.network.find? id with
  | none => rfl
  | some station =>
    have hlt := hfind id station hstation
    by_cases hself : station = stop
    · subst hself
      simp [TransitNetwork.setParent, Except.toOption, Option.filter_some, StationLinking.admits]
    · simp [TransitNetwork.setParent, Except.toOption, Option.filter_some, StationLinking.admits,
        TransitNetwork.withStation, hlt, hstop, hself, Ne.symm hself]

/-- The intake after the claim of a row, if it makes one. -/
def linkRow (s : StopIntake) (stop : Handle) (row : StopRow) : StopIntake :=
  match row.parentId with
  | none => s
  | some station => (s.link ⟨stop, row.id, station⟩).1

/-- A row's claim decides the station of its stop and whether it is counted, and nothing else. -/
theorem linkRow_spec {s : StopIntake} (hfind : ∀ id station,
      s.network.find? id = some station → station < s.network.stopCount)
    {above below : List (Option Handle)} (hstations : s.network.stations = above ++ none :: below)
    (row : StopRow) :
    (s.linkRow above.length row).network.stations =
        above ++ row.station? .twoPass s.network.find? above.length :: below ∧
      (s.linkRow above.length row).unresolved =
        s.unresolved + stationless [row] [row.station? .twoPass s.network.find? above.length] ∧
      (s.linkRow above.length row).network.find? = s.network.find? ∧
      (s.linkRow above.length row).pending = s.pending := by
  have hstop : above.length < s.network.stopCount := by
    rw [← s.network.length_stations, hstations]
    simp
  unfold linkRow
  cases hid : row.parentId with
  | none =>
    have hnone : row.station? .twoPass s.network.find? above.length = none :=
      StopRow.station?_eq_none_of_parentId hid _
    simp [hnone, hstations, stationless, hid]
  | some id =>
    simp only [fst_link hfind hid hstop]
    cases hstation : row.station? .twoPass s.network.find? above.length with
    | none => simp [hstations, stationless, hid]
    | some station =>
      simp [TransitNetwork.stations_withStation, hstations, stationless, hid]

/-! ## All claims of a network -/

theorem fst_linkAll_claimsOf_cons (s : StopIntake) (first : Handle) (row : StopRow)
    (rest : List StopRow) :
    (s.linkAll (claimsOf first (row :: rest))).1 =
      ((s.linkRow first row).linkAll (claimsOf (first + 1) rest)).1 := by
  cases hid : row.parentId with
  | none => simp [claimsOf, linkRow, hid]
  | some id => simp [claimsOf, linkRow, hid, linkAll]

/-- Following the claims of rows gives each of their stops the station that can be linked. -/
theorem linkAll_claimsOf {s : StopIntake} (hfind : ∀ id station,
      s.network.find? id = some station → station < s.network.stopCount)
    (above : List (Option Handle)) (stops : List StopRow)
    (hstations : s.network.stations = above ++ stops.map fun _ => none) :
    (s.linkAll (claimsOf above.length stops)).1.network.stations =
        above ++ stationsOf .twoPass s.network.find? above.length stops ∧
      (s.linkAll (claimsOf above.length stops)).1.unresolved =
        s.unresolved +
          stationless stops (stationsOf .twoPass s.network.find? above.length stops) ∧
      (s.linkAll (claimsOf above.length stops)).1.network.find? = s.network.find? := by
  induction stops generalizing s above with
  | nil => simpa [claimsOf, stationsOf, stationless, linkAll] using hstations
  | cons row rest ih =>
    obtain ⟨hnext, hunresolved, hsame, -⟩ := linkRow_spec hfind hstations row
    have hcount : (s.linkRow above.length row).network.stopCount = s.network.stopCount := by
      simp [← TransitNetwork.length_stations, hnext, hstations]
    have hrest := ih (s := s.linkRow above.length row) (by rw [hsame, hcount]; exact hfind)
      (above ++ [row.station? .twoPass s.network.find? above.length]) (by simpa using hnext)
    rw [hsame, List.length_append, List.length_singleton] at hrest
    rw [fst_linkAll_claimsOf_cons, hrest.1, hrest.2.1, hunresolved]
    refine ⟨?_, ?_, hrest.2.2⟩
    · simp [stationsOf]
    · simp only [stationless, stationsOf, List.zipIdx_cons, List.map_cons, List.zip_cons_cons,
        List.zip_nil_right, List.countP_cons, List.countP_nil]
      omega

/-! ## The stop phase -/

/-- How far an intake has come with the stations of accepted rows: in one pass all are linked that
can be, in two all claims are kept. -/
def Linked : StationLinking → List StopRow → StopIntake → Prop
  | .singlePass, kept, s =>
    s.network.stations = stationsOf .singlePass s.network.find? 0 kept ∧
      s.unresolved = stationless kept s.network.stations ∧ s.pending = []
  | .twoPass, kept, s =>
    s.network.stations = kept.map (fun _ => none) ∧ s.unresolved = 0 ∧
      s.pending.reverse = claimsOf 0 kept

theorem linked_emptyIntake (linking : StationLinking) (rows : TransitRows) :
    (emptyIntake rows).Linked linking [] := by
  cases linking with
  | singlePass => exact ⟨rfl, rfl, rfl⟩
  | twoPass => exact ⟨rfl, rfl, rfl⟩

end StopIntake

section
variable {sections : List RecordId} {rows : TransitRows} {n : TransitNetwork}

theorem TransitNetwork.Holds.find?_lt (h : n.Holds sections rows) (id : RecordId)
    (station : Handle) (hfind : n.find? id = some station) : station < n.stopCount :=
  h.handle_lt ((h.stopIndex.get?_eq_some id station).mp hfind)

theorem stationsOf_concat (linking : StationLinking) (find? : RecordId → Option Handle)
    (first : Handle) (stops : List StopRow) (row : StopRow) :
    stationsOf linking find? first (stops ++ [row]) =
      stationsOf linking find? first stops ++
        [row.station? linking find? (first + stops.length)] := by
  simp [stationsOf, List.zipIdx_append]

/-- In one pass a stop that comes later changes no station. -/
theorem stationsOf_singlePass_congr {find? other? : RecordId → Option Handle} {first : Nat}
    {stops : List StopRow} (hagree : ∀ id (station : Nat), station < first + stops.length →
      (find? id = some station ↔ other? id = some station)) :
    stationsOf .singlePass find? first stops = stationsOf .singlePass other? first stops := by
  apply List.map_congr_left
  rintro ⟨row, stop⟩ hmem
  have hlt : stop < first + stops.length := (List.mem_zipIdx hmem).2.1
  apply Option.ext
  intro station
  simp only [StopRow.station?_eq_some_iff, StationLinking.admits, decide_eq_true_eq]
  constructor
  · rintro ⟨id, hid, hfind, hbefore⟩
    exact ⟨id, hid, (hagree id station (Nat.lt_trans hbefore hlt)).mp hfind, hbefore⟩
  · rintro ⟨id, hid, hfind, hbefore⟩
    exact ⟨id, hid, (hagree id station (Nat.lt_trans hbefore hlt)).mpr hfind, hbefore⟩

end

namespace StopIntake

variable {sections : List RecordId} {index : IdIndex}

/-- What following the claim of a row notes, if it makes one. -/
def noteRow (s : StopIntake) (stop : Handle) (row : StopRow) : List Note :=
  match row.parentId with
  | none => []
  | some station => (s.link ⟨stop, row.id, station⟩).2

/-- In one pass the claim of a row is followed at once. -/
theorem accept_singlePass {s : StopIntake} {network : TransitNetwork} {position : Nat}
    {row : StopRow} {stop : Handle}
    (h : s.network.acceptStop index position row = .ok (network, stop)) :
    accept .singlePass index position row s =
      .ok (({ s with network }).linkRow stop row, ({ s with network }).noteRow stop row) := by
  simp only [accept, h, bind, Except.bind, linkRow, noteRow]
  cases row.parentId with
  | none => rfl
  | some station => rfl

theorem holds_linkRow {rows : TransitRows} {s : StopIntake} (h : s.network.Holds sections rows)
    (stop : Handle) (row : StopRow) : (s.linkRow stop row).network.Holds sections rows := by
  unfold linkRow
  cases row.parentId with
  | none => exact h
  | some station => exact holds_link h _

theorem accept_twoPass {s : StopIntake} {network : TransitNetwork} {position : Nat}
    {row : StopRow} {stop : Handle}
    (h : s.network.acceptStop index position row = .ok (network, stop)) :
    accept .twoPass index position row s =
      .ok ({ s with
        network, pending := (row.parentId.map (⟨stop, row.id, ·⟩)).toList ++ s.pending }, []) := by
  simp only [accept, h, bind, Except.bind]
  cases row.parentId <;> rfl

theorem Linked.append_twoPass {kept : List StopRow} {row : StopRow} {s : StopIntake}
    (hlinked : s.Linked .twoPass kept) {network : TransitNetwork}
    (hstations : network.stations = s.network.stations ++ [none]) :
    Linked .twoPass (kept ++ [row])
      { s with
        network
        pending := (row.parentId.map (⟨kept.length, row.id, ·⟩)).toList ++ s.pending } := by
  obtain ⟨hnone, hzero, hclaims⟩ := hlinked
  refine ⟨?_, hzero, ?_⟩
  · simpa [hnone] using hstations
  · cases hid : row.parentId with
    | none => simpa [claimsOf, List.zipIdx_append, hid] using hclaims
    | some station => simpa [claimsOf, List.zipIdx_append, hid] using hclaims

/-- In one pass a further stop is linked, and the links of the stops above stay. -/
theorem Linked.append_singlePass {id : RecordId} {name : String} {kept : List StopRow}
    {row : StopRow} {s : StopIntake} (hlinked : s.Linked .singlePass kept)
    (h : s.network.Holds sections ⟨id, name, kept, []⟩) {network : TransitNetwork}
    (hnext : network.Holds sections ⟨id, name, kept ++ [row], []⟩)
    (hstations : network.stations = s.network.stations ++ [none]) :
    Linked .singlePass (kept ++ [row]) (({ s with network }).linkRow kept.length row) := by
  obtain ⟨hlinks, hunresolved, hpending⟩ := hlinked
  have hcount : s.network.stations.length = kept.length :=
    (TransitNetwork.length_stations _).trans h.order_eq
  obtain ⟨hrowLinks, hrowUnresolved, hsame, hrowPending⟩ :=
    linkRow_spec (s := { s with network }) hnext.find?_lt hstations row
  rw [hcount] at hrowLinks hrowUnresolved hsame hrowPending
  have hlast : row.station? .twoPass network.find? kept.length =
      row.station? .singlePass network.find? kept.length := by
    refine (StopRow.station?_last fun id station hfind => ?_).symm
    have hlt := hnext.find?_lt id station hfind
    rw [← TransitNetwork.length_stations, hstations, List.length_append, hcount] at hlt
    exact Nat.le_of_lt_succ hlt
  have hbefore : stationsOf .singlePass network.find? 0 kept = s.network.stations := by
    rw [hlinks]
    apply stationsOf_singlePass_congr
    intro id station hlt
    rw [h.find?_eq_some_iff, hnext.find?_eq_some_iff, List.getElem?_append_left (by omega)]
  refine ⟨?_, ?_, ?_⟩
  · rw [hrowLinks, hsame, stationsOf_concat, hbefore, hlast, Nat.zero_add]
  · rw [hrowUnresolved, hrowLinks, hunresolved, stationless, stationless, stationless,
      List.zip_append hcount.symm, List.countP_append]
  · rw [hrowPending, hpending]

theorem follows_offer_linked (linking : StationLinking)
    (hindex : index.Lists .roadSection sections) (id : RecordId) (name : String) :
    (offer linking index).Follows
      (fun kept position row => firstFailure (row.checks sections (kept.map (·.id)) position))
      (fun kept s => s.network.Holds sections ⟨id, name, kept, []⟩ ∧ s.Linked linking kept) where
  refuses := by
    rintro kept position row s failure ⟨h, -⟩ hfail
    exact (follows_offer linking hindex id name).refuses h hfail
  accepts := by
    rintro kept position row s ⟨h, hlinked⟩ hpass
    obtain ⟨hvalid, hnew⟩ := (row.firstFailure_checks_eq_none_iff _ _ _).mp hpass
    obtain ⟨network, haccept, hnext⟩ := h.acceptStop hindex hvalid hnew position
    have hstations := TransitNetwork.stations_acceptStop haccept
    cases linking with
    | twoPass => exact ⟨_, [], accept_twoPass haccept, hnext, hlinked.append_twoPass hstations⟩
    | singlePass =>
      exact ⟨_, _, accept_singlePass haccept, holds_linkRow hnext kept.length row,
        hlinked.append_singlePass h hnext hstations⟩

/-- Once all claims of an intake are followed, its stops have the stations that their rows give. -/
theorem settle_of_linked {linking : StationLinking} {rows : TransitRows} {s : StopIntake}
    (h : s.network.Holds sections rows) (hlinked : s.Linked linking rows.stops) :
    s.settle.1.network.stations =
        stationsOf linking s.settle.1.network.find? 0 rows.stops ∧
      s.settle.1.unresolved = stationless rows.stops s.settle.1.network.stations := by
  cases linking with
  | singlePass =>
    obtain ⟨hlinks, hunresolved, hpending⟩ := hlinked
    have hsettle : s.settle.1 = { s with pending := [] } := by
      simp [settle, hpending, linkAll]
    rw [hsettle]
    exact ⟨hlinks, hunresolved⟩
  | twoPass =>
    obtain ⟨hnone, hzero, hclaims⟩ := hlinked
    obtain ⟨hlinks, hunresolved, hsame⟩ :=
      linkAll_claimsOf (s := { s with pending := [] }) h.find?_lt [] rows.stops hnone
    simp only [List.length_nil, List.nil_append] at hlinks hunresolved hsame
    rw [settle, hclaims, hlinks, hunresolved, hsame]
    exact ⟨rfl, by rw [hzero, Nat.zero_add]⟩

end StopIntake

/-! ## A whole network -/

namespace TransitNetwork

/-- Two networks have the same stops and find them alike. -/
structure SameStops (n m : TransitNetwork) : Prop where
  vertices : n.graph.vertices = m.graph.vertices
  stopIndex : n.stopIndex = m.stopIndex

theorem SameStops.stations_eq {n m : TransitNetwork} (h : n.SameStops m) :
    n.stations = m.stations := by
  rw [stations, stations, h.vertices]

theorem SameStops.find?_eq {n m : TransitNetwork} (h : n.SameStops m) : n.find? = m.find? := by
  funext id
  rw [find?, find?, h.stopIndex]

/-- A connection changes neither stops nor how they are found. -/
theorem sameStops_offerConnection {position : Nat} {row : ConnectionRow} {n next : TransitNetwork}
    {notes : List Note} (h : offerConnection position row n = .ok (next, notes)) :
    next.SameStops n := by
  simp only [offerConnection, acceptConnection, IdIndex.follow] at h
  cases hfrom : n.stopIndex.get? row.stopFrom with
  | none => simp [hfrom, bind, Except.bind] at h
  | some source =>
    cases hto : n.stopIndex.get? row.stopTo with
    | none => simp [hfrom, hto, bind, Except.bind] at h
    | some target =>
      by_cases hends : source < n.graph.order ∧ target < n.graph.order
      · simp only [hfrom, hto, connect, Digraph.addArc, if_pos hends, bind, Except.bind, pure,
          Except.pure, Except.ok.injEq, Prod.mk.injEq] at h
        obtain ⟨rfl, -⟩ := h
        exact ⟨rfl, rfl⟩
      · simp [hfrom, hto, connect, Digraph.addArc, if_neg hends, bind, Except.bind] at h

end TransitNetwork

theorem sameStops_importedTransit (linking : StationLinking) (index : IdIndex)
    (rows : TransitRows) :
    (importedTransit linking index rows).SameStops (settledStops linking index rows).network :=
  after_of_keeps (P := (TransitNetwork.SameStops · (settledStops linking index rows).network))
    (fun haccept hsame =>
      have hnext := TransitNetwork.sameStops_offerConnection haccept
      ⟨hnext.vertices.trans hsame.vertices, hnext.stopIndex.trans hsame.stopIndex⟩)
    0 rows.connections ⟨rfl, rfl⟩

section
variable {index : IdIndex} {sections : List RecordId} (hindex : index.Lists .roadSection sections)
  (linking : StationLinking) (rows : TransitRows)
include hindex

theorem linked_stopIntake :
    (stopIntake linking index rows).network.Holds sections
        ⟨rows.networkId, rows.name, validStops sections rows.stops, []⟩ ∧
      (stopIntake linking index rows).Linked linking (validStops sections rows.stops) := by
  have h := (StopIntake.follows_offer_linked linking hindex rows.networkId rows.name).after
    (emptyIntake rows)
    ⟨TransitNetwork.holds_empty sections _ _, StopIntake.linked_emptyIntake linking rows⟩
    0 rows.stops
  rwa [accepted_offerStop hindex linking rows] at h

theorem stations_settledStops :
    (settledStops linking index rows).network.stations =
        stationsOf linking (settledStops linking index rows).network.find? 0
          (validStops sections rows.stops) ∧
      (settledStops linking index rows).unresolved =
        stationless (validStops sections rows.stops)
          (settledStops linking index rows).network.stations := by
  obtain ⟨hholds, hlinked⟩ := linked_stopIntake hindex linking rows
  exact StopIntake.settle_of_linked hholds hlinked

/-- The stops of an imported network have the stations that their rows give. -/
theorem stations_importedTransit :
    (importedTransit linking index rows).stations =
      stationsOf linking (importedTransit linking index rows).find? 0
        (validStops sections rows.stops) := by
  have hsame := sameStops_importedTransit linking index rows
  rw [hsame.stations_eq, hsame.find?_eq]
  exact (stations_settledStops hindex linking rows).1

/-- The claims that came to nothing are those of the stops without a station. -/
theorem unresolved_settledStops :
    (settledStops linking index rows).unresolved =
      stationless (validStops sections rows.stops)
        (importedTransit linking index rows).stations := by
  rw [(sameStops_importedTransit linking index rows).stations_eq]
  exact (stations_settledStops hindex linking rows).2

end

/-! ## Apart from stations -/

namespace TransitNetwork

/-- The network with every stop left without a station. -/
def withoutStations (n : TransitNetwork) : TransitNetwork :=
  { n with
    graph := { n.graph with vertices := n.graph.vertices.map fun s => { s with parent := none } } }

variable {sections : List RecordId} {index : IdIndex} {rows : TransitRows} {n m : TransitNetwork}

/-- A row says all about its stop but the station. -/
theorem becomes_unique (hindex : index.Lists .roadSection sections) {row : StopRow}
    {stop other : Stop} (h : row.Becomes sections stop) (h' : row.Becomes sections other) :
    ({ stop with parent := none } : Stop) = { other with parent := none } := by
  have hplace := hindex.place_unique h.roadSection h'.roadSection
  simp only [Stop.mk.injEq, true_and]
  exact ⟨h.describes.id.trans h'.describes.id.symm, h.describes.name.trans h'.describes.name.symm,
    h.describes.isStation.trans h'.describes.isStation.symm, hplace,
    h.describes.zone.trans h'.describes.zone.symm,
    h.describes.abscissa.trans h'.describes.abscissa.symm⟩

/-- Apart from stations a network is determined by its rows. -/
theorem Holds.withoutStations_eq (hindex : index.Lists .roadSection sections)
    (h : n.Holds sections rows) (h' : m.Holds sections rows) :
    n.withoutStations = m.withoutStations := by
  have hvertices : n.withoutStations.graph.vertices = m.withoutStations.graph.vertices := by
    apply Array.ext'
    simp only [withoutStations, Array.toList_map]
    exact map_eq_map_of_forall₂ (R := StopRow.Becomes sections)
      (fun _ _ _ hs hs' => becomes_unique hindex hs hs') h.stops h'.stops
  have harcs : n.graph.arcs = m.graph.arcs := by
    apply Array.ext'
    refine List.right_unique_forall₂' ?_ h.arcs h'.arcs
    intro row arc other harc hother
    have hsource := h.stopIndex.place_unique harc.source hother.source
    have htarget := h.stopIndex.place_unique harc.target hother.target
    obtain ⟨_, _, _⟩ := arc
    obtain ⟨_, _, _⟩ := other
    simp only at hsource htarget
    rw [hsource, htarget]
  simp only [withoutStations, TransitNetwork.mk.injEq, Digraph.mk.injEq] at hvertices ⊢
  exact ⟨h.id.trans h'.id.symm, h.name.trans h'.name.symm, ⟨hvertices, harcs⟩,
    h.stopIndex.unique h'.stopIndex⟩

end TransitNetwork

end Multimodal
