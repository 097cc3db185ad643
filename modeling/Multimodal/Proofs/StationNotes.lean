import Multimodal.Proofs.Notes
import Multimodal.Proofs.StationLinks

/-!
# The lines about stations

A stop that stays without the station it declares has a line in the log. With one pass over the
stops the lines stand among those of the rows, with two they follow on all rows, but they are the
same lines in the order of stops, told from what the rows declare and from the stations that the
network has in the end (`unresolvedNotes`).

* `StopIntake.noteRow_eq`: the line of one claim.
* `StopIntake.snd_linkAll_claimsOf`: the lines of claims that were kept.
* `noted_append_settle`: the lines about stations that the stops of a network leave.
-/
namespace Multimodal

/-- The ids of stops that have no station, each with the id of the station that its row declares. -/
def unresolvedClaims (stops : List StopRow) (stations : List (Option Handle)) :
    List (RecordId × RecordId) :=
  (stops.zip stations).filterMap fun (row, station) =>
    match station with
    | some _ => none
    | none => row.parentId.map (row.id, ·)

/-- The lines about stops without the station that their rows declare. -/
def unresolvedNotes (network : String) (stops : List StopRow) (stations : List (Option Handle)) :
    List Note :=
  (unresolvedClaims stops stations).map fun (stop, station) =>
    .stationUnresolved stop network station

theorem unresolvedNotes_append (network : String) {stops : List StopRow}
    {stations : List (Option Handle)} (h : stops.length = stations.length) (more : List StopRow)
    (others : List (Option Handle)) :
    unresolvedNotes network (stops ++ more) (stations ++ others) =
      unresolvedNotes network stops stations ++ unresolvedNotes network more others := by
  rw [unresolvedNotes, unresolvedClaims, List.zip_append h, List.filterMap_append, List.map_append]
  rfl

theorem unresolvedNotes_cons (network : String) (row : StopRow) (station : Option Handle)
    (stops : List StopRow) (stations : List (Option Handle)) :
    unresolvedNotes network (row :: stops) (station :: stations) =
      unresolvedNotes network [row] [station] ++ unresolvedNotes network stops stations := by
  have hlength : [row].length = [station].length := rfl
  exact unresolvedNotes_append network hlength stops stations

theorem length_unresolvedNotes (network : String) (stops : List StopRow)
    (stations : List (Option Handle)) :
    (unresolvedNotes network stops stations).length = stationless stops stations := by
  rw [unresolvedNotes, List.length_map, unresolvedClaims, stationless,
    List.length_filterMap_eq_countP]
  refine List.countP_congr ?_
  rintro ⟨row, station⟩ -
  cases station <;> simp

namespace StopIntake

/-! ## One claim -/

theorem notesAt_link (s : StopIntake) (claim : StationClaim) :
    ∀ line ∈ (s.link claim).2, line.level = .debug := by
  simp only [link]
  split <;> simp [Note.level]

/-- A claim is noted if its station is not found or cannot be linked. -/
theorem snd_link {s : StopIntake} (hfind : ∀ id station, s.network.find? id = some station →
      station < s.network.stopCount)
    {row : StopRow} {stop : Handle} {id : RecordId} (hid : row.parentId = some id)
    (hstop : stop < s.network.stopCount) :
    (s.link ⟨stop, row.id, id⟩).2 =
      match row.station? .twoPass s.network.find? stop with
      | some _ => []
      | none => [.stationUnresolved row.id s.network.name id] := by
  simp only [link, StopRow.station?, hid, Option.bind_some]
  cases hstation : s.network.find? id with
  | none => rfl
  | some station =>
    have hlt := hfind id station hstation
    by_cases hself : station = stop
    · subst hself
      simp [TransitNetwork.setParent, Except.toOption, Option.filter_some, StationLinking.admits]
    · simp [TransitNetwork.setParent, Except.toOption, Option.filter_some, StationLinking.admits,
        hlt, hstop, hself, Ne.symm hself]

/-- The line of a row's claim is told from the station that its stop gets. -/
theorem noteRow_eq {s : StopIntake} (hfind : ∀ id station, s.network.find? id = some station →
      station < s.network.stopCount)
    {stop : Handle} (hstop : stop < s.network.stopCount) (row : StopRow) :
    s.noteRow stop row =
      unresolvedNotes s.network.name [row] [row.station? .twoPass s.network.find? stop] := by
  unfold noteRow
  cases hid : row.parentId with
  | none => simp [unresolvedNotes, unresolvedClaims, StopRow.station?_eq_none_of_parentId hid, hid]
  | some id =>
    simp only [snd_link hfind hid hstop]
    cases hstation : row.station? .twoPass s.network.find? stop with
    | none => simp [unresolvedNotes, unresolvedClaims, hid]
    | some station => simp [unresolvedNotes, unresolvedClaims]

/-! ## Claims that were kept -/

theorem snd_linkAll_claimsOf_cons (s : StopIntake) (first : Handle) (row : StopRow)
    (rest : List StopRow) :
    (s.linkAll (claimsOf first (row :: rest))).2 =
      s.noteRow first row ++ ((s.linkRow first row).linkAll (claimsOf (first + 1) rest)).2 := by
  cases hid : row.parentId with
  | none => simp [claimsOf, linkRow, noteRow, hid]
  | some id => simp [claimsOf, linkRow, noteRow, hid, linkAll]

/-- Following the claims of rows notes those that lead to no station. -/
theorem snd_linkAll_claimsOf {sections : List RecordId} {rows : TransitRows} {s : StopIntake}
    (h : s.network.Holds sections rows) (above : List (Option Handle)) (stops : List StopRow)
    (hstations : s.network.stations = above ++ stops.map fun _ => none) :
    (s.linkAll (claimsOf above.length stops)).2 = unresolvedNotes rows.name stops
      (stationsOf .twoPass s.network.find? above.length stops) := by
  induction stops generalizing s above with
  | nil => rfl
  | cons row rest ih =>
    have hstop : above.length < s.network.stopCount := by
      rw [← s.network.length_stations, hstations]
      simp
    obtain ⟨hnext, -, hsame, -⟩ := linkRow_spec h.find?_lt hstations row
    have hrest := ih (holds_linkRow h above.length row)
      (above ++ [row.station? .twoPass s.network.find? above.length]) (by simpa using hnext)
    rw [hsame, List.length_append, List.length_singleton] at hrest
    have hcons : stationsOf .twoPass s.network.find? above.length (row :: rest) =
        row.station? .twoPass s.network.find? above.length ::
          stationsOf .twoPass s.network.find? (above.length + 1) rest := by
      simp [stationsOf]
    rw [snd_linkAll_claimsOf_cons, hrest, noteRow_eq h.find?_lt hstop, h.name, hcons,
      ← unresolvedNotes_cons]

/-! ## The stop phase -/

variable {index : IdIndex} {sections : List RecordId}

theorem notesAt_offer (linking : StationLinking) (index : IdIndex) :
    (offer linking index).NotesAt .debug := by
  intro position row s next notes h
  cases haccept : s.network.acceptStop index position row with
  | error failure => simp [offer, accept, haccept, bind, Except.bind] at h
  | ok result =>
    rw [offer] at h
    cases linking with
    | twoPass =>
      rw [accept_twoPass haccept, Except.ok.injEq, Prod.mk.injEq] at h
      simp [← h.2]
    | singlePass =>
      rw [accept_singlePass haccept, Except.ok.injEq, Prod.mk.injEq] at h
      rw [← h.2, noteRow]
      split
      · simp
      · exact notesAt_link _ _

theorem notesAt_linkAll (s : StopIntake) (claims : List StationClaim) :
    ∀ line ∈ (s.linkAll claims).2, line.level = .debug := by
  induction claims generalizing s with
  | nil => simp [linkAll]
  | cons claim rest ih => exact List.forall_mem_append.mpr ⟨notesAt_link s claim, ih _⟩

theorem notesAt_settle (s : StopIntake) : ∀ line ∈ s.settle.2, line.level = .debug :=
  notesAt_linkAll _ _

section
variable (hindex : index.Lists .roadSection sections) (rows : TransitRows)
include hindex

/-- In one pass the line of a further stop comes after those of the stops above. -/
theorem unresolvedNotes_singlePass {id : RecordId} {name : String} {kept : List StopRow}
    {position : Nat} {row : StopRow} {s next : StopIntake} {notes : List Note}
    (h : s.network.Holds sections ⟨id, name, kept, []⟩)
    (hpass : firstFailure (row.checks sections (kept.map (·.id)) position) = none)
    (haccepted : offer .singlePass index position row s = .ok (next, notes)) :
    unresolvedNotes name (kept ++ [row]) next.network.stations =
      unresolvedNotes name kept s.network.stations ++ notes := by
  obtain ⟨hvalid, hnew⟩ := (row.firstFailure_checks_eq_none_iff _ _ _).mp hpass
  obtain ⟨network, haccept, hnext⟩ := h.acceptStop hindex hvalid hnew position
  have hcount : s.network.stations.length = kept.length :=
    (TransitNetwork.length_stations _).trans h.order_eq
  have hstations := TransitNetwork.stations_acceptStop haccept
  have hstop : kept.length < network.stopCount := by
    rw [← network.length_stations, hstations, List.length_append, hcount]
    simp
  rw [offer, accept_singlePass haccept, Except.ok.injEq, Prod.mk.injEq] at haccepted
  obtain ⟨rfl, rfl⟩ := haccepted
  obtain ⟨hlinks, -⟩ := @linkRow_spec { s with network } hnext.find?_lt _ [] hstations row
  rw [hcount] at hlinks
  rw [hlinks, unresolvedNotes_append name hcount.symm, noteRow_eq hnext.find?_lt hstop, hnext.name]

theorem noted_offer_singlePass :
    (offer .singlePass index).noted 0 rows.stops (emptyIntake rows) =
      unresolvedNotes rows.name (validStops sections rows.stops)
        (stopIntake .singlePass index rows).network.stations := by
  have h := (follows_offer .singlePass hindex rows.networkId rows.name).append_noted
    (fun kept s => unresolvedNotes rows.name kept s.network.stations)
    (fun hholds hpass haccepted => unresolvedNotes_singlePass hindex hholds hpass haccepted)
    (emptyIntake rows) (TransitNetwork.holds_empty sections _ _) 0 rows.stops
  rw [accepted_offerStop hindex] at h
  exact h

end

theorem notes_offer_twoPass (index : IdIndex) : (offer .twoPass index).Notes fun _ => [] := by
  intro position row s next notes h
  cases haccept : s.network.acceptStop index position row with
  | error failure => simp [offer, accept, haccept, bind, Except.bind] at h
  | ok result =>
    rw [offer, accept_twoPass haccept, Except.ok.injEq, Prod.mk.injEq] at h
    exact h.2.symm

end StopIntake

/-! ## A whole network -/

section
variable {index : IdIndex} {sections : List RecordId} (hindex : index.Lists .roadSection sections)
  (linking : StationLinking) (rows : TransitRows)
include hindex

/-- Whether they come with the rows or after them, the lines about stations are those of the stops
that have none in the end. -/
theorem noted_append_settle :
    (StopIntake.offer linking index).noted 0 rows.stops (emptyIntake rows) ++
        (stopIntake linking index rows).settle.2 =
      unresolvedNotes rows.name (validStops sections rows.stops)
        (importedTransit linking index rows).stations := by
  obtain ⟨hholds, hlinked⟩ := linked_stopIntake hindex linking rows
  have hsame := sameStops_importedTransit linking index rows
  cases linking with
  | singlePass =>
    obtain ⟨-, -, hpending⟩ := hlinked
    have hsettle : (stopIntake .singlePass index rows).settle =
        ({ stopIntake .singlePass index rows with pending := [] }, []) := by
      simp [StopIntake.settle, hpending, StopIntake.linkAll]
    rw [hsame.stations_eq, settledStops, hsettle, StopIntake.noted_offer_singlePass hindex,
      List.append_nil]
  | twoPass =>
    obtain ⟨hnone, -, hclaims⟩ := hlinked
    let intake : StopIntake := { stopIntake .twoPass index rows with pending := [] }
    have hsettle : (stopIntake .twoPass index rows).settle =
        intake.linkAll (claimsOf 0 (validStops sections rows.stops)) := by
      rw [StopIntake.settle, hclaims]
    have hlines := @StopIntake.snd_linkAll_claimsOf sections _ intake hholds [] _ hnone
    obtain ⟨-, -, hfind⟩ := @StopIntake.linkAll_claimsOf intake hholds.find?_lt [] _ hnone
    simp only [List.length_nil] at hlines hfind
    rw [noted_eq_nil (StopIntake.notes_offer_twoPass index), List.nil_append,
      stations_importedTransit hindex, hsame.find?_eq, settledStops, hsettle, hfind, hlines]

end

end Multimodal
