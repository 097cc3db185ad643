import Multimodal.Proofs.Stations

/-!
# Linking stations in one pass and in two

The two ways of linking accept the same rows and make the same network but for the stations of its
stops. With two passes a stop is linked to every other stop of its network that it declares; one
pass keeps of these links the ones that lead to a stop above, so following them comes to an end.

* `MemoryRows.refusals_linking`: the linking refuses no row.
* `MemoryRows.withoutStations_imported`: apart from stations it changes nothing.
* `climb_add_steps_le`: links to stops above lead up and end.
* `importNetwork_links_stations`: what an import links in each way.
-/
namespace Multimodal

/-! ## Following links -/

namespace TransitNetwork

def station? (n : TransitNetwork) (stop : Handle) : Option Handle := (n.stop? stop).bind (·.parent)

/-- Where some steps from a stop to its station lead. -/
def climb (n : TransitNetwork) : Nat → Handle → Option Handle
  | 0, stop => some stop
  | steps + 1, stop => (n.station? stop).bind (n.climb steps)

theorem station?_eq_join (n : TransitNetwork) (stop : Handle) :
    n.station? stop = n.stations[stop]?.join := by
  rw [station?, stop?, Digraph.vertex?, stations, List.getElem?_map, Array.getElem?_toList]
  cases n.graph.vertices[stop]? <;> rfl

/-- Where every link leads to a stop above, each step goes up. -/
theorem climb_add_steps_le {n : TransitNetwork}
    (hup : ∀ (stop station : Nat), n.station? stop = some station → station < stop) (steps : Nat)
    {stop above : Nat} (h : n.climb steps stop = some above) : above + steps ≤ stop := by
  induction steps generalizing stop with
  | zero =>
    obtain rfl := Option.some.inj h
    exact Nat.le_refl _
  | succ steps ih =>
    simp only [climb, Option.bind_eq_some_iff] at h
    obtain ⟨station, hstation, hrest⟩ := h
    have hlt := hup stop station hstation
    have hle := ih hrest
    omega

/-- Following stations from any stop goes up with each step and comes to an end. -/
structure LinksUp (n : TransitNetwork) : Prop where
  rises : ∀ (steps stop above : Nat), n.climb steps stop = some above → above + steps ≤ stop
  ends : ∀ stop : Nat, n.climb (stop + 1) stop = none

theorem linksUp_of_forall {n : TransitNetwork}
    (hup : ∀ (stop station : Nat), n.station? stop = some station → station < stop) :
    n.LinksUp where
  rises := fun steps _ _ h => climb_add_steps_le hup steps h
  ends := by
    intro stop
    cases hend : n.climb (stop + 1) stop with
    | none => rfl
    | some above =>
      have hle := @climb_add_steps_le n hup (stop + 1) stop above hend
      omega

end TransitNetwork

/-! ## What the linking leaves alone -/

namespace Network

/-- The network with every stop left without a station, and nothing said about it. -/
def withoutStations (n : Network) : Network :=
  { n with
    transit := n.transit.map TransitNetwork.withoutStations
    stats := { n.stats with unresolvedParents := 0 } }

end Network

section
variable {index : IdIndex} {sections : List RecordId} (hindex : index.Lists .roadSection sections)
  (linking other : StationLinking) (rows : TransitRows)
include hindex

theorem stopRefusals_linking : stopRefusals linking index rows = stopRefusals other index rows :=
  (StopIntake.follows_offer linking hindex rows.networkId rows.name).refusals_eq
    (StopIntake.follows_offer other hindex rows.networkId rows.name)
    (emptyIntake rows) (TransitNetwork.holds_empty sections _ _)
    (emptyIntake rows) (TransitNetwork.holds_empty sections _ _) 0 rows.stops

theorem connectionRefusals_linking :
    connectionRefusals linking index rows = connectionRefusals other index rows :=
  have follows := TransitNetwork.follows_offerConnection sections
    ⟨rows.networkId, rows.name, validStops sections rows.stops, []⟩
  follows.refusals_eq follows _ (holds_settledStops hindex linking rows) _
    (holds_settledStops hindex other rows) 0 rows.connections

theorem withoutStations_importedTransit :
    (importedTransit linking index rows).withoutStations =
      (importedTransit other index rows).withoutStations :=
  (holds_importedTransit hindex linking rows).withoutStations_eq hindex
    (holds_importedTransit hindex other rows)

end

namespace MemoryRows

variable (linking other : StationLinking) (rows : MemoryRows)

theorem refusals_linking : rows.refusals linking = rows.refusals other := by
  have hindex := rows.holdsRoads_roads.sectionIndex
  rw [refusals, refusals, transitRefusals, transitRefusals,
    funext (stopRefusals_linking hindex linking other),
    funext (connectionRefusals_linking hindex linking other)]

/-- Apart from stations an import makes the same network in either way. -/
theorem withoutStations_imported :
    (rows.imported linking).withoutStations = (rows.imported other).withoutStations := by
  have hindex := rows.holdsRoads_roads.sectionIndex
  have htransit := withoutStations_importedTransit hindex linking other
  simp only [Network.withoutStations, imported, account, List.map_toArray, List.map_map,
    Function.comp_def, htransit, funext (stopRefusals_linking hindex linking other),
    funext (connectionRefusals_linking hindex linking other)]

end MemoryRows

/-! ## The links of an import -/

def MemoryRows.stopRow? (rows : MemoryRows) (place : Nat) (stop : Handle) : Option StopRow := do
  let t ← rows.networks[place]?
  t.stops[stop]?

namespace Network

/-- A stop is linked to a station. -/
def Links (n : Network) (place : Nat) (stop station : Handle) : Prop :=
  ∃ s, n.stopAt? place stop = some s ∧ s.parent = some station

/-- The row of a stop declares as its station another stop of the same network. Zero declares none.
-/
def Declares (n : Network) (place : Nat) (row : StopRow) (stop station : Handle) : Prop :=
  ∃ id found, row.parentStation = some id ∧ id ≠ 0 ∧ n.stop? place id = some (station, found) ∧
    station ≠ stop

/-- Every stop carries a row and is linked to what it declares. -/
def LinksDeclared (rows : MemoryRows) (n : Network) : Prop :=
  ∀ (place : Nat) (handle : Handle) (stop : Stop), n.stopAt? place handle = some stop →
    ∃ row, rows.stopRow? place handle = some row ∧ row.Describes stop ∧
      ∀ station, stop.parent = some station ↔ n.Declares place row handle station

/-- The number of stops whose rows declare a station and that have none. -/
def stationless (rows : MemoryRows) (n : Network) : Nat :=
  totalOf (fun (t, network) => Multimodal.stationless t.stops network.stations)
    (rows.networks.zip n.transit.toList)

end Network

theorem StopRow.parentId_eq_some_iff {row : StopRow} {id : RecordId} :
    row.parentId = some id ↔ row.parentStation = some id ∧ id ≠ 0 := by
  simp [parentId, Option.filter_eq_some_iff]

section
variable {index : IdIndex} {sections : List RecordId} (hindex : index.Lists .roadSection sections)
  (linking other : StationLinking) (t : TransitRows)
include hindex

theorem find?_importedTransit :
    (importedTransit linking index t).find? = (importedTransit other index t).find? := by
  have h := congrArg TransitNetwork.stopIndex
    (withoutStations_importedTransit hindex linking other t)
  funext id
  exact congrArg (fun stops : IdIndex => stops.get? id) h

theorem station?_importedTransit (stop : Handle) :
    (importedTransit linking index t).station? stop =
      (validStops sections t.stops)[stop]?.bind fun row =>
        row.station? linking (importedTransit linking index t).find? stop := by
  rw [TransitNetwork.station?_eq_join, stations_importedTransit hindex, stationsOf,
    List.getElem?_map, List.getElem?_zipIdx]
  cases (validStops sections t.stops)[stop]? with
  | none => rfl
  | some row => simp

/-- One pass keeps the links of two passes that lead to a stop above. -/
theorem station?_singlePass_eq_some_iff (stop station : Handle) :
    (importedTransit .singlePass index t).station? stop = some station ↔
      (importedTransit .twoPass index t).station? stop = some station ∧ station < stop := by
  rw [station?_importedTransit hindex, station?_importedTransit hindex,
    find?_importedTransit hindex .singlePass .twoPass]
  simp only [Option.bind_eq_some_iff, StopRow.station?_eq_some_iff, StationLinking.admits,
    decide_eq_true_eq]
  constructor
  · rintro ⟨row, hrow, id, hid, hfind, hlt⟩
    exact ⟨⟨row, hrow, id, hid, hfind, Nat.ne_of_lt hlt⟩, hlt⟩
  · rintro ⟨⟨row, hrow, id, hid, hfind, -⟩, hlt⟩
    exact ⟨row, hrow, id, hid, hfind, hlt⟩

end

namespace MemoryRows

variable (linking : StationLinking) (rows : MemoryRows)

theorem links_imported_iff (place : Nat) (stop station : Handle) :
    (rows.imported linking).Links place stop station ↔
      ∃ t, rows.networks[place]? = some t ∧
        (importedTransit linking rows.roads.sectionIndex t).station? stop = some station := by
  simp only [Network.Links, Network.stopAt?, rows.transit_imported, TransitNetwork.station?]
  cases rows.networks[place]? with
  | none => simp
  | some t => simp [Option.bind_eq_some_iff]

theorem mem_transit_imported {network : TransitNetwork} :
    network ∈ (rows.imported linking).transit ↔
      ∃ t ∈ rows.networks, importedTransit linking rows.roads.sectionIndex t = network := by
  simp [imported]

theorem stop?_imported_iff {place : Nat} {t : TransitRows} (ht : rows.networks[place]? = some t)
    (id : RecordId) (handle : Handle) :
    (∃ stop, (rows.imported linking).stop? place id = some (handle, stop)) ↔
      (importedTransit linking rows.roads.sectionIndex t).find? id = some handle := by
  have hholds := holds_importedTransit rows.holdsRoads_roads.sectionIndex linking t
  simp only [Network.stop?, rows.transit_imported, ht, Option.map_some, Option.bind_eq_bind,
    Option.bind_some, Option.bind_eq_some_iff, Option.pure_def, Option.some.injEq, Prod.mk.injEq]
  constructor
  · rintro ⟨_, _, hfind, _, _, rfl, rfl⟩
    exact hfind
  · intro hfind
    obtain ⟨row, hrow, -⟩ := (hholds.find?_eq_some_iff id handle).mp hfind
    obtain ⟨stop, hstop, -⟩ := hholds.stop?_of_row hrow
    exact ⟨stop, handle, hfind, stop, hstop, rfl, rfl⟩

/-- With two passes stops are linked to what their rows declare. -/
theorem linksDeclared_imported : (rows.imported .twoPass).LinksDeclared rows.usable := by
  intro place handle stop hstop
  have hindex := rows.holdsRoads_roads.sectionIndex
  simp only [Network.stopAt?, rows.transit_imported] at hstop
  cases ht : rows.networks[place]? with
  | none => simp [ht] at hstop
  | some t =>
    simp only [ht, Option.map_some, Option.bind_eq_bind, Option.bind_some] at hstop
    have hholds := holds_importedTransit hindex .twoPass t
    -- every stop has a row, since there are as many rows as stops
    have hlt : handle < (validStops (rows.usable.sections.map (·.id)) t.stops).length := by
      have hsome := (Array.getElem?_eq_some_iff.mp hstop).1
      exact lt_of_lt_of_eq hsome hholds.order_eq
    obtain ⟨row, hrow⟩ : ∃ row,
        (validStops (rows.usable.sections.map (·.id)) t.stops)[handle]? = some row :=
      ⟨_, List.getElem?_eq_getElem hlt⟩
    obtain ⟨same, hsame, hbecomes⟩ := hholds.stop?_of_row hrow
    obtain rfl : stop = same := Option.some.inj (hstop.symm.trans hsame)
    refine ⟨row, ?_, hbecomes.describes, ?_⟩
    · simpa [stopRow?, rows.networks_usable, ht, validTransit] using hrow
    · intro station
      have hlink := station?_importedTransit hindex .twoPass t handle
      rw [hrow, Option.bind_some, TransitNetwork.station?, hstop, Option.bind_some] at hlink
      rw [hlink, StopRow.station?_eq_some_iff]
      simp only [StopRow.parentId_eq_some_iff, ← rows.stop?_imported_iff .twoPass ht,
        StationLinking.admits, decide_eq_true_eq]
      constructor
      · rintro ⟨id, ⟨hid, hzero⟩, ⟨found, hfound⟩, hother⟩
        exact ⟨id, found, hid, hzero, hfound, hother⟩
      · rintro ⟨id, found, hid, hzero, hfound, hother⟩
        exact ⟨id, ⟨hid, hzero⟩, ⟨found, hfound⟩, hother⟩

/-- An import counts the stops that stay without the station they declare. -/
theorem unresolvedParents_imported :
    (rows.imported linking).stats.unresolvedParents =
      (rows.imported linking).stationless rows.usable := by
  have hindex := rows.holdsRoads_roads.sectionIndex
  simp only [imported, account, Network.stationless, usable, List.zip_map', totalOf_map]
  refine congrArg (totalOf · rows.networks) (funext fun t => ?_)
  exact unresolved_settledStops hindex linking t

end MemoryRows

/-! ## The result -/

/-- Whatever the policy, an import succeeds with one pass over stops exactly if it does with two,
and apart from stations with the same network. Two passes link every stop to what its row declares.
One pass keeps the links that lead to a stop above, so following them from any stop goes up and
comes to an end. Both count the stops that stay without the station they declare. -/
theorem importNetwork_links_stations (rows : MemoryRows) (policy : RowPolicy) :
    ((∃ once, (importNetwork rows.source ⟨policy, .singlePass⟩).outcome = .ok once) ↔
        ∃ twice, (importNetwork rows.source ⟨policy, .twoPass⟩).outcome = .ok twice) ∧
      ∀ once twice, (importNetwork rows.source ⟨policy, .singlePass⟩).outcome = .ok once →
        (importNetwork rows.source ⟨policy, .twoPass⟩).outcome = .ok twice →
        once.withoutStations = twice.withoutStations ∧
          twice.LinksDeclared rows.usable ∧
          (∀ place stop station, once.Links place stop station ↔
            twice.Links place stop station ∧ station < stop) ∧
          (∀ network ∈ once.transit, network.LinksUp) ∧
          once.stats.unresolvedParents = once.stationless rows.usable ∧
          twice.stats.unresolvedParents = twice.stationless rows.usable := by
  have hindex := rows.holdsRoads_roads.sectionIndex
  constructor
  · simp only [outcome_importNetwork_source]
    rw [rows.refusals_linking .singlePass .twoPass, exists_settle_eq_ok_iff,
      exists_settle_eq_ok_iff]
  · intro once twice honce htwice
    obtain rfl := eq_imported_of_outcome_eq_ok rows .singlePass honce
    obtain rfl := eq_imported_of_outcome_eq_ok rows .twoPass htwice
    refine ⟨rows.withoutStations_imported .singlePass .twoPass, rows.linksDeclared_imported, ?_, ?_,
      rows.unresolvedParents_imported .singlePass, rows.unresolvedParents_imported .twoPass⟩
    · intro place stop station
      simp only [rows.links_imported_iff, station?_singlePass_eq_some_iff hindex]
      constructor
      · rintro ⟨t, ht, hlink, hlt⟩
        exact ⟨⟨t, ht, hlink⟩, hlt⟩
      · rintro ⟨⟨t, ht, hlink⟩, hlt⟩
        exact ⟨t, ht, hlink, hlt⟩
    · intro network hnetwork
      obtain ⟨t, -, rfl⟩ := (rows.mem_transit_imported .singlePass).mp hnetwork
      exact TransitNetwork.linksUp_of_forall fun stop station hlink =>
        ((station?_singlePass_eq_some_iff hindex t stop station).mp hlink).2

/-- Stops that declare a station below them, none, themselves, one above, one that is no stop, and
one of another network. -/
def families : MemoryRows where
  nodes := [{ id := 1 }]
  sections := [{ id := 7, nodeFrom := 1, nodeTo := 1 }]
  networks :=
    [ { networkId := 1, name := "bus"
        stops :=
          [ { id := 11, parentStation := some 12, roadSection := 7 },
            { id := 12, parentStation := some 0, roadSection := 7 },
            { id := 13, parentStation := some 13, roadSection := 7 },
            { id := 14, parentStation := some 11, roadSection := 7 },
            { id := 15, parentStation := some 9, roadSection := 7 },
            { id := 9, roadSection := 7, abscissa := 2 },
            { id := 16, parentStation := some 21, roadSection := 7 } ]
        connections := [] },
      { networkId := 2, name := "tram", stops := [{ id := 21, roadSection := 7 }]
        connections := [] } ]

theorem importNetwork_links_stations_families :
    ∃ once twice, (importNetwork families.source ⟨.skip, .singlePass⟩).outcome = .ok once ∧
      (importNetwork families.source ⟨.skip, .twoPass⟩).outcome = .ok twice ∧
      once.withoutStations = twice.withoutStations ∧ twice.LinksDeclared families.usable ∧
      once.transit.toList.map (·.stations) =
        [[none, none, none, some 0, none, none], [none]] ∧
      twice.transit.toList.map (·.stations) =
        [[some 1, none, none, some 0, none, none], [none]] ∧
      once.stationless families.usable = 4 ∧ twice.stationless families.usable = 3 := by
  have honce := outcome_importNetwork_skip families .singlePass
  have htwice := outcome_importNetwork_skip families .twoPass
  obtain ⟨hsame, hdeclared, -⟩ :=
    (importNetwork_links_stations families .skip).2 _ _ honce htwice
  exact ⟨_, _, honce, htwice, hsame, hdeclared, by decide +kernel, by decide +kernel,
    by decide +kernel, by decide +kernel⟩

end Multimodal
