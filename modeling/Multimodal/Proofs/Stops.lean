import Multimodal.Proofs.Checks
import Multimodal.Proofs.Pass
import Multimodal.Proofs.Registration

/-!
# Importing public transport

A public transport network that holds rows has a stop for each stop row and an arc for each
connection row, in their order, and its index lists the ids of its stops (`TransitNetwork.Holds`).
Stations are left open here: following a station's claim changes nothing else about a network
(`StopIntake.holds_link`).

Both phases keep this: a row that passes its checks is added at the end, and any other is refused
with the failure of its first check (`StopIntake.follows_offer`,
`TransitNetwork.follows_offerConnection`).
`holds_importedTransit` says which rows an imported network comes from.
-/
namespace Multimodal

/-- A stop carries what a row says of it alone. -/
structure StopRow.Describes (row : StopRow) (stop : Stop) : Prop where
  id : stop.id = row.id
  name : stop.name = row.name
  isStation : stop.isStation = row.isStation
  zone : stop.zone = row.zone
  abscissa : stop.abscissa = row.abscissa

/-- A stop carries a row and lies on its section, `sections` being the ids of road sections in the
order of their handles. -/
structure StopRow.Becomes (sections : List RecordId) (row : StopRow) (stop : Stop) : Prop where
  describes : row.Describes stop
  roadSection : sections[stop.roadSection]? = some row.roadSection

/-- An arc leads from a row's first stop to its second, `stops` being the ids of the network's stops
in the order of their handles. -/
structure ConnectionRow.Becomes (stops : List RecordId) (row : ConnectionRow) (arc : Arc Unit) :
    Prop where
  source : stops[arc.source]? = some row.stopFrom
  target : stops[arc.target]? = some row.stopTo

namespace TransitNetwork

/-- A network is that of rows, all of which it accepted, stations aside. -/
structure Holds (sections : List RecordId) (rows : TransitRows) (n : TransitNetwork) : Prop where
  id : n.id = rows.networkId
  name : n.name = rows.name
  stops : List.Forall₂ (StopRow.Becomes sections) rows.stops n.graph.vertices.toList
  stopIndex : n.stopIndex.Lists .stop (rows.stops.map (·.id))
  arcs : List.Forall₂ (ConnectionRow.Becomes (rows.stops.map (·.id))) rows.connections
    n.graph.arcs.toList

theorem holds_empty (sections : List RecordId) (id : RecordId) (name : String) :
    (empty id name).Holds sections ⟨id, name, [], []⟩ :=
  ⟨rfl, rfl, .nil, IdIndex.lists_empty _, .nil⟩

variable {sections : List RecordId} {index : IdIndex} {rows : TransitRows} {n : TransitNetwork}

theorem Holds.order_eq (h : n.Holds sections rows) : n.graph.order = rows.stops.length := by
  rw [Digraph.order, ← Array.length_toList, ← h.stops.length_eq]

theorem Holds.handle_lt (h : n.Holds sections rows) {handle : Nat} {id : RecordId}
    (hid : (rows.stops.map (·.id))[handle]? = some id) : handle < n.graph.order := by
  obtain ⟨hlt, -⟩ := List.getElem?_eq_some_iff.mp hid
  rw [h.order_eq]
  simpa using hlt

/-! ## One stop row -/

/-- A valid stop row with a new id is added at the end. -/
theorem Holds.acceptStop {id : RecordId} {name : String} {stops : List StopRow}
    (h : n.Holds sections ⟨id, name, stops, []⟩) (hindex : index.Lists .roadSection sections)
    {row : StopRow} (hvalid : row.isValid sections = true) (hnew : row.id ∉ stops.map (·.id))
    (position : Nat) :
    ∃ next, n.acceptStop index position row = .ok (next, stops.length) ∧
      next.Holds sections ⟨id, name, stops ++ [row], []⟩ := by
  simp only [StopRow.isValid, Bool.and_eq_true, decide_eq_true_eq, List.contains_iff_mem] at hvalid
  obtain ⟨⟨hlow, hhigh⟩, hsection⟩ := hvalid
  obtain ⟨place, hplace, hplaceId⟩ := hindex.follow_of_mem hsection .stop position (some row.id)
    "road_section_id"
  obtain ⟨stopIndex, hreg, hlists⟩ := h.stopIndex.register hnew
  have hnone : n.stopIndex.get? row.id = none := (h.stopIndex.get?_eq_none row.id).mpr hnew
  have horder : n.graph.order = stops.length := h.order_eq
  rw [List.length_map] at hreg
  refine ⟨{ n with graph := (n.graph.addVertex (row.stop place)).1, stopIndex }, ?_, ?_⟩
  · simp [TransitNetwork.acceptStop, find?, hnone, StopRow.isPlaced, hlow, hhigh, hplace, addStop,
      IdIndex.contains_eq_isSome, StopRow.stop, Digraph.addVertex, hreg, horder, bind, Except.bind,
      pure, Except.pure]
  · have hlast : List.Forall₂ (StopRow.Becomes sections) [row] [row.stop place] :=
      .cons ⟨⟨rfl, rfl, rfl, rfl, rfl⟩, hplaceId⟩ .nil
    refine ⟨h.id, h.name, ?_, by simpa using hlists, ?_⟩
    · simpa [Digraph.addVertex] using List.rel_append h.stops hlast
    · have harcs : n.graph.arcs.toList = [] := by simpa using h.arcs
      simp [Digraph.addVertex, harcs]

/-- A stop row that does not pass its checks is refused with the failure of the first. -/
theorem Holds.acceptStop_eq_error (h : n.Holds sections rows)
    (hindex : index.Lists .roadSection sections) {row : StopRow} {position : Nat}
    {failure : Failure}
    (hfail : firstFailure (row.checks sections (rows.stops.map (·.id)) position) = some failure) :
    n.acceptStop index position row = .error failure := by
  simp only [StopRow.checks, firstFailure_cons, firstFailure_nil, List.contains_eq_mem] at hfail
  by_cases hnew : row.id ∈ rows.stops.map (·.id)
  case pos =>
    have hfound : (n.stopIndex.get? row.id).isSome = true := by
      rw [← IdIndex.contains_eq_isSome, h.stopIndex.contains_iff]
      exact hnew
    simp only [hnew, decide_true, Bool.not_true, Bool.false_eq_true, if_false,
      Option.some.injEq] at hfail
    simp [TransitNetwork.acceptStop, find?, hfound, bind, Except.bind, throw, throwThe,
      MonadExceptOf.throw, hfail]
  have hnone : n.stopIndex.get? row.id = none := (h.stopIndex.get?_eq_none row.id).mpr hnew
  by_cases hplaced : 0.0 ≤ row.abscissa ∧ row.abscissa ≤ 1.0
  case neg =>
    have hout : row.isPlaced = false := by
      simpa [StopRow.isPlaced] using hplaced
    simp only [hnew, hplaced, decide_false, Bool.not_false, Bool.false_eq_true, if_true, if_false,
      Option.some.injEq] at hfail
    simp [TransitNetwork.acceptStop, find?, hnone, hout, bind, Except.bind, throw, throwThe,
      MonadExceptOf.throw, hfail]
  have hin : row.isPlaced = true := by simpa [StopRow.isPlaced] using hplaced
  by_cases hsection : row.roadSection ∈ sections
  case pos =>
    simp only [hnew, hplaced, hsection, decide_true, decide_false, Bool.not_false, if_true,
      reduceCtorEq, and_self] at hfail
  have hplace := hindex.follow_of_not_mem hsection .stop position (some row.id) "road_section_id"
  simp only [hnew, hplaced, hsection, decide_true, decide_false, Bool.not_false, Bool.false_eq_true,
    if_true, if_false, and_self, Option.some.injEq] at hfail
  simp [TransitNetwork.acceptStop, find?, hnone, hin, hplace, bind, Except.bind, hfail]

/-! ## Stations -/

/-- A station given to a stop changes nothing that rows say. -/
theorem Holds.setParent (h : n.Holds sections rows) {stop parent : Handle} {next : TransitNetwork}
    (hset : n.setParent stop parent = .ok next) : next.Holds sections rows := by
  unfold TransitNetwork.setParent at hset
  split at hset
  · simp only [Except.ok.injEq] at hset
    subst hset
    refine ⟨h.id, h.name, ?_, h.stopIndex, h.arcs⟩
    simp only [Digraph.mapVertex, Array.toList_modify]
    refine forall₂_modify (fun row s hs => ⟨?_, hs.roadSection⟩) h.stops stop
    exact ⟨hs.describes.id, hs.describes.name, hs.describes.isStation, hs.describes.zone,
      hs.describes.abscissa⟩
  · cases hset

/-! ## One connection row -/

/-- A connection row between stops of the network is added at the end. -/
theorem Holds.acceptConnection (h : n.Holds sections rows) {row : ConnectionRow}
    (hvalid : row.isValid (rows.stops.map (·.id)) = true) (position : Nat) :
    ∃ next, n.acceptConnection position row = .ok next ∧
      next.Holds sections { rows with connections := rows.connections ++ [row] } := by
  simp only [ConnectionRow.isValid, Bool.and_eq_true, List.contains_iff_mem] at hvalid
  obtain ⟨source, hsource, hsourceId⟩ := h.stopIndex.follow_of_mem hvalid.1 .transitSection position
    none "stop_from"
  obtain ⟨target, htarget, htargetId⟩ := h.stopIndex.follow_of_mem hvalid.2 .transitSection position
    none "stop_to"
  have hends : source < n.graph.order ∧ target < n.graph.order :=
    ⟨h.handle_lt hsourceId, h.handle_lt htargetId⟩
  refine ⟨{ n with graph := { n.graph with arcs := n.graph.arcs.push ⟨source, target, ()⟩ } }, ?_,
    ?_⟩
  · simp [TransitNetwork.acceptConnection, hsource, htarget, connect, Digraph.addArc, hends, bind,
      Except.bind, pure, Except.pure]
  · have hlast : List.Forall₂ (ConnectionRow.Becomes (rows.stops.map (·.id))) [row]
        [⟨source, target, ()⟩] := .cons ⟨hsourceId, htargetId⟩ .nil
    refine ⟨h.id, h.name, h.stops, h.stopIndex, ?_⟩
    simpa using List.rel_append h.arcs hlast

/-- A connection row that does not pass its checks is refused with the failure of the first. -/
theorem Holds.acceptConnection_eq_error (h : n.Holds sections rows) {row : ConnectionRow}
    {position : Nat} {failure : Failure}
    (hfail : firstFailure (row.checks (rows.stops.map (·.id)) position) = some failure) :
    n.acceptConnection position row = .error failure := by
  simp only [ConnectionRow.checks, firstFailure_cons, firstFailure_nil,
    List.contains_eq_mem] at hfail
  by_cases hfrom : row.stopFrom ∈ rows.stops.map (·.id)
  case neg =>
    have hsource := h.stopIndex.follow_of_not_mem hfrom .transitSection position none "stop_from"
    simp only [hfrom, decide_false, Bool.false_eq_true, if_false, Option.some.injEq] at hfail
    simp [TransitNetwork.acceptConnection, hsource, bind, Except.bind, hfail]
  obtain ⟨source, hsource, -⟩ := h.stopIndex.follow_of_mem hfrom .transitSection position none
    "stop_from"
  by_cases hto : row.stopTo ∈ rows.stops.map (·.id)
  case pos => simp only [hfrom, hto, decide_true, if_true, reduceCtorEq] at hfail
  have htarget := h.stopIndex.follow_of_not_mem hto .transitSection position none "stop_to"
  simp only [hfrom, hto, decide_true, decide_false, Bool.false_eq_true, if_true, if_false,
    Option.some.injEq] at hfail
  simp [TransitNetwork.acceptConnection, hsource, htarget, bind, Except.bind, hfail]

/-! ## Finding stops -/

theorem Holds.find?_eq_some_iff (h : n.Holds sections rows) (id : RecordId) (handle : Handle) :
    n.find? id = some handle ↔ ∃ row, rows.stops[handle]? = some row ∧ row.id = id := by
  rw [find?, h.stopIndex.get?_eq_some, List.getElem?_map, Option.map_eq_some_iff]

theorem Holds.stop?_of_row (h : n.Holds sections rows) {handle : Nat} {row : StopRow}
    (hrow : rows.stops[handle]? = some row) :
    ∃ stop, n.stop? handle = some stop ∧ row.Becomes sections stop :=
  exists_getElem?_of_forall₂ h.stops hrow

theorem Holds.arc?_of_connection (h : n.Holds sections rows) {handle : Nat} {row : ConnectionRow}
    (hrow : rows.connections[handle]? = some row) :
    ∃ arc, n.graph.arc? handle = some arc ∧ row.Becomes (rows.stops.map (·.id)) arc :=
  exists_getElem?_of_forall₂ h.arcs hrow

end TransitNetwork

/-! ## The stops of a network -/

namespace StopIntake

variable {sections : List RecordId} {index : IdIndex} {rows : TransitRows} {s : StopIntake}

/-- Following a claim changes nothing that rows say. -/
theorem holds_link (h : s.network.Holds sections rows) (claim : StationClaim) :
    (s.link claim).1.network.Holds sections rows := by
  unfold link
  cases hfind : s.network.find? claim.station with
  | none => exact h
  | some station =>
    cases hset : s.network.setParent claim.handle station with
    | error failure => simpa [hset, Except.toOption] using h
    | ok next => simpa [hset, Except.toOption] using h.setParent hset

theorem holds_linkAll (h : s.network.Holds sections rows) (claims : List StationClaim) :
    (s.linkAll claims).1.network.Holds sections rows := by
  induction claims generalizing s with
  | nil => exact h
  | cons claim rest ih => exact ih (holds_link h claim)

theorem holds_settle (h : s.network.Holds sections rows) :
    s.settle.1.network.Holds sections rows :=
  holds_linkAll (s := { s with pending := [] }) h s.pending.reverse

def offer (linking : StationLinking) (index : IdIndex) : Acceptance StopRow StopIntake :=
  accept linking index

theorem follows_offer (linking : StationLinking) (hindex : index.Lists .roadSection sections)
    (id : RecordId) (name : String) :
    (offer linking index).Follows
      (fun kept position row => firstFailure (row.checks sections (kept.map (·.id)) position))
      (fun kept s => s.network.Holds sections ⟨id, name, kept, []⟩) where
  refuses := by
    intro kept position row s failure h hfail
    simp [offer, accept, h.acceptStop_eq_error hindex hfail, bind, Except.bind]
  accepts := by
    intro kept position row s h hpass
    obtain ⟨hvalid, hnew⟩ := (row.firstFailure_checks_eq_none_iff _ _ _).mp hpass
    obtain ⟨network, haccept, hnext⟩ := h.acceptStop hindex hvalid hnew position
    simp only [offer, accept, haccept, bind, Except.bind]
    cases row.parentId with
    | none => exact ⟨_, _, rfl, hnext⟩
    | some station =>
      cases linking with
      | singlePass => exact ⟨_, _, rfl, holds_link hnext _⟩
      | twoPass => exact ⟨_, _, rfl, hnext⟩

theorem steady_offer (linking : StationLinking) (index : IdIndex) :
    (offer linking index).Steady := by
  intro position row s next notes h other
  simp only [offer, accept, TransitNetwork.acceptStop, IdIndex.follow] at h ⊢
  cases hfind : s.network.find? row.id with
  | some handle =>
    simp [hfind, bind, Except.bind, throw, throwThe, MonadExceptOf.throw] at h
  | none =>
    cases hplaced : row.isPlaced with
    | false => simp [hfind, hplaced, bind, Except.bind, throw, throwThe, MonadExceptOf.throw] at h
    | true =>
      cases hsection : index.get? row.roadSection with
      | none => simp [hfind, hplaced, hsection, bind, Except.bind] at h
      | some place => simpa [hfind, hplaced, hsection, bind, Except.bind] using h

end StopIntake

def emptyIntake (rows : TransitRows) : StopIntake where
  network := TransitNetwork.empty rows.networkId rows.name

def stopIntake (linking : StationLinking) (index : IdIndex) (rows : TransitRows) : StopIntake :=
  (StopIntake.offer linking index).after 0 rows.stops (emptyIntake rows)

/-- The intake once every claim was followed. -/
def settledStops (linking : StationLinking) (index : IdIndex) (rows : TransitRows) : StopIntake :=
  (stopIntake linking index rows).settle.1

/-! ## A whole network -/

namespace TransitNetwork

def offerConnection : Acceptance ConnectionRow TransitNetwork := fun position row n =>
  return (← n.acceptConnection position row, [])

theorem follows_offerConnection (sections : List RecordId) (rows : TransitRows) :
    offerConnection.Follows
      (fun _ position row => firstFailure (row.checks (rows.stops.map (·.id)) position))
      (fun kept n => n.Holds sections { rows with connections := kept }) where
  refuses := by
    intro kept position row n failure h hfail
    simp [offerConnection, h.acceptConnection_eq_error hfail, bind, Except.bind]
  accepts := by
    intro kept position row n h hpass
    obtain ⟨next, haccept, hnext⟩ :=
      h.acceptConnection ((row.firstFailure_checks_eq_none_iff _ _).mp hpass) position
    exact ⟨next, [], by simp [offerConnection, haccept, bind, Except.bind, pure, Except.pure],
      hnext⟩

theorem steady_offerConnection : offerConnection.Steady := by
  intro position row n next notes h other
  simp only [offerConnection, acceptConnection, IdIndex.follow] at h ⊢
  cases hfrom : n.stopIndex.get? row.stopFrom with
  | none => simp [hfrom, bind, Except.bind] at h
  | some source =>
    cases hto : n.stopIndex.get? row.stopTo with
    | none => simp [hfrom, hto, bind, Except.bind] at h
    | some target => simpa [hfrom, hto, bind, Except.bind] using h

end TransitNetwork

/-- A network after its stop rows and its connection rows. -/
def importedTransit (linking : StationLinking) (index : IdIndex) (rows : TransitRows) :
    TransitNetwork :=
  TransitNetwork.offerConnection.after 0 rows.connections (settledStops linking index rows).network

/-- The stop rows of a network that an import accepts: of the valid ones the first of each id. -/
def validStops (sections : List RecordId) (stops : List StopRow) : List StopRow :=
  firsts (·.id) (stops.filter (StopRow.isValid sections))

/-- The rows of a network that an import accepts. -/
def validTransit (sections : List RecordId) (rows : TransitRows) : TransitRows where
  networkId := rows.networkId
  name := rows.name
  stops := validStops sections rows.stops
  connections :=
    rows.connections.filter (ConnectionRow.isValid ((validStops sections rows.stops).map (·.id)))

section
variable {index : IdIndex} {sections : List RecordId} (hindex : index.Lists .roadSection sections)
  (linking : StationLinking) (rows : TransitRows)
include hindex

theorem accepted_offerStop :
    (StopIntake.offer linking index).accepted 0 rows.stops (emptyIntake rows) =
      validStops sections rows.stops := by
  have h := (StopIntake.follows_offer linking hindex rows.networkId rows.name).accepted_eq_firsts
    (·.id) (fun kept position row => row.firstFailure_checks_eq_none_iff _ _ position)
    (emptyIntake rows) (TransitNetwork.holds_empty sections _ _) 0 rows.stops
  simpa [validStops] using h

theorem holds_settledStops :
    (settledStops linking index rows).network.Holds sections
      ⟨rows.networkId, rows.name, validStops sections rows.stops, []⟩ := by
  have h := (StopIntake.follows_offer linking hindex rows.networkId rows.name).after
    (emptyIntake rows) (TransitNetwork.holds_empty sections _ _) 0 rows.stops
  rw [accepted_offerStop hindex linking rows] at h
  exact StopIntake.holds_settle h

theorem accepted_offerConnection :
    TransitNetwork.offerConnection.accepted 0 rows.connections
      (settledStops linking index rows).network = (validTransit sections rows).connections :=
  (TransitNetwork.follows_offerConnection sections
    ⟨rows.networkId, rows.name, validStops sections rows.stops, []⟩).accepted_eq_filter
    (fun _ position row => row.firstFailure_checks_eq_none_iff _ position)
    (settledStops linking index rows).network (holds_settledStops hindex linking rows) 0
    rows.connections

/-- An imported network is that of its valid rows. -/
theorem holds_importedTransit :
    (importedTransit linking index rows).Holds sections (validTransit sections rows) := by
  have h := (TransitNetwork.follows_offerConnection sections
    ⟨rows.networkId, rows.name, validStops sections rows.stops, []⟩).after
    (settledStops linking index rows).network (holds_settledStops hindex linking rows) 0
    rows.connections
  rw [accepted_offerConnection hindex linking rows] at h
  exact h

end

end Multimodal
