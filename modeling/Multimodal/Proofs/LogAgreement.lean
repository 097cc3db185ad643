import Multimodal.Proofs.Faults
import Multimodal.Proofs.NoWarnings

/-!
# The log agrees with the network

What a successful import writes at each level can be told from its rows and its network: warnings
from what is wrong with the rejected rows, lines about stations from the stops that have none, a
line for each section, and five lines about the import as a whole.

* `MemoryRows.warnings_log`, `MemoryRows.infos_log`, `MemoryRows.debugs_log`,
  `MemoryRows.traces_log`: the log of rows, level by level.
* `MemoryRows.mem_unresolvedNotes_imported`: which stops have a line.
* `Network.summary_eq`: what the last line tells of the network.
* `importNetwork_logs_what_it_does`: the log of an import, in its words.
-/
namespace Multimodal

/-! ## The lines of the phases, level by level -/

theorem atLevel_nodeLog (wanted : Verbosity) (nodes : List NodeRow) :
    atLevel wanted (nodeLog nodes) =
      if wanted = .warn then (nodeRefusals nodes).map (.rowSkipped .roadNode) else [] := by
  rw [nodeLog, atLevel_log notesAt_offerNode (by decide), noted_eq_nil notes_offerNode, ite_self]
  rfl

theorem atLevel_sectionLog (wanted : Verbosity) (nodes : List NodeRow)
    (sections : List SectionRow) :
    atLevel wanted (sectionLog nodes sections) =
      if wanted = .warn then (sectionRefusals nodes sections).map (.rowSkipped .roadSection)
      else if wanted = .trace then
        (firsts (·.id) (validSections nodes sections)).map fun row =>
          .sectionAdded row.id row.nodeFrom row.nodeTo
      else [] := by
  rw [sectionLog, atLevel_log notesAt_offerSection (by decide), noted_eq_flatMap notes_offerSection,
    accepted_offerSection, ← List.map_eq_flatMap]
  rfl

theorem atLevel_stopLog {index : IdIndex} {sections : List RecordId}
    (hindex : index.Lists .roadSection sections) (linking : StationLinking) (wanted : Verbosity)
    (rows : TransitRows) :
    atLevel wanted (stopLog linking index rows) =
      if wanted = .warn then (stopRefusals linking index rows).map (.rowSkipped .stop)
      else if wanted = .debug then
        unresolvedNotes rows.name (validStops sections rows.stops)
          (importedTransit linking index rows).stations
      else [] := by
  have hsettle : atLevel wanted (stopIntake linking index rows).settle.2 =
      if wanted = .debug then (stopIntake linking index rows).settle.2 else [] := by
    have hdebug := (stopIntake linking index rows).notesAt_settle
    split
    · rename_i hwanted
      exact atLevel_eq_self (hwanted ▸ hdebug)
    · rename_i hwanted
      exact atLevel_eq_nil fun line hline => hdebug line hline ▸ Ne.symm hwanted
  rw [stopLog, atLevel_append, atLevel_log (StopIntake.notesAt_offer linking index) (by decide),
    hsettle, ← noted_append_settle hindex]
  by_cases hwarn : wanted = .warn
  · simp [hwarn, stopRefusals]
  · by_cases hdebug : wanted = .debug <;> simp [hwarn, hdebug]

theorem atLevel_connectionLog (linking : StationLinking) (index : IdIndex) (wanted : Verbosity)
    (rows : TransitRows) :
    atLevel wanted (connectionLog linking index rows) =
      if wanted = .warn then
        (connectionRefusals linking index rows).map (.rowSkipped .transitSection)
      else [] := by
  rw [connectionLog, atLevel_log notesAt_offerConnection (by decide),
    noted_eq_nil notes_offerConnection, ite_self]
  rfl

/-! ## The lines of an import, level by level -/

theorem atLevel_closingNotes (wanted : Verbosity) (n : Network) :
    atLevel wanted (closingNotes n) =
      (if wanted = .warn ∧ 0 < n.stats.totalSkipped then [.rowsSkipped n.stats.totalSkipped]
        else []) ++ if wanted = .info then [.imported n.summary] else [] := by
  unfold closingNotes
  cases wanted <;> by_cases hskipped : 0 < n.stats.totalSkipped <;> simp [Note.level, hskipped]

namespace MemoryRows

variable (linking : StationLinking) (rows : MemoryRows)

/-- What a network says about the stops that stay without the station that their rows declare. -/
def unresolvedNotes (n : Network) : List Note :=
  (rows.networks.zip n.transit.toList).flatMap fun (t, network) =>
    Multimodal.unresolvedNotes network.name t.stops network.stations

theorem warnings_log :
    atLevel .warn (rows.log linking) =
      rows.faults.map (fun (kind, failure) => .rowSkipped kind failure) ++
        if 0 < (rows.imported linking).stats.totalSkipped then
          [.rowsSkipped (rows.imported linking).stats.totalSkipped]
        else [] := by
  have hindex := rows.holdsRoads_roads.sectionIndex
  rw [← rows.rejected_eq_faults linking]
  simp [log, rejected, atLevel_nodeLog, atLevel_sectionLog, atLevel_stopLog hindex,
    atLevel_connectionLog, atLevel_closingNotes, Note.level, List.map_flatMap, Function.comp_def]

theorem infos_log :
    atLevel .info (rows.log linking) =
      [ .importingNodes rows.nodes.length,
        .importingSections rows.sections.length,
        .importingStops (totalOf (·.stops.length) rows.networks) rows.networks.length,
        .importingConnections (totalOf (·.connections.length) rows.networks),
        .imported (rows.imported linking).summary ] := by
  have hindex := rows.holdsRoads_roads.sectionIndex
  have hnone : (rows.networks.flatMap fun _ => ([] : List Note)) = [] :=
    List.flatMap_eq_nil_iff.mpr fun _ _ => rfl
  simp [log, atLevel_nodeLog, atLevel_sectionLog, atLevel_stopLog hindex, atLevel_connectionLog,
    atLevel_closingNotes, Note.level, hnone]

theorem traces_log :
    atLevel .trace (rows.log linking) =
      rows.usable.sections.map fun row => .sectionAdded row.id row.nodeFrom row.nodeTo := by
  have hindex := rows.holdsRoads_roads.sectionIndex
  simp [log, atLevel_nodeLog, atLevel_sectionLog, atLevel_stopLog hindex, atLevel_connectionLog,
    atLevel_closingNotes, Note.level, usable]

theorem debugs_log :
    atLevel .debug (rows.log linking) = rows.usable.unresolvedNotes (rows.imported linking) := by
  have hindex := rows.holdsRoads_roads.sectionIndex
  have hname (t : TransitRows) :
      (importedTransit linking rows.roads.sectionIndex t).name = t.name :=
    (holds_importedTransit hindex linking t).name
  simp [log, atLevel_nodeLog, atLevel_sectionLog, atLevel_stopLog hindex, atLevel_connectionLog,
    atLevel_closingNotes, Note.level, unresolvedNotes, usable, imported, List.zip_map',
    List.flatMap_map, hname, validTransit]

end MemoryRows

/-! ## The summary -/

/-- The summary of a network that is what rows say tells how many they are. -/
theorem Network.summary_eq {rows : MemoryRows} {n : Network} (hroads : n.HasRoads rows)
    (htransit : n.HasTransit rows) :
    n.summary =
      "road network with " ++ toString rows.nodes.length ++ " nodes and "
        ++ toString rows.sections.length ++ " sections; " ++ toString rows.networks.length
        ++ " public transport networks: ["
        ++ String.intercalate ", " (rows.networks.map fun t =>
          t.name ++ " (" ++ toString t.stops.length ++ " stops, " ++ toString t.connections.length
            ++ " sections)")
        ++ "]" := by
  have hnetworks : n.transit.toList.map transitSummary = rows.networks.map fun t =>
      t.name ++ " (" ++ toString t.stops.length ++ " stops, " ++ toString t.connections.length
        ++ " sections)" := by
    refine List.ext_getElem (by simp [htransit.count]) fun place hn hrows => ?_
    rw [List.length_map] at hn hrows
    obtain ⟨network, hnetwork, hof⟩ :=
      htransit.network place _ (List.getElem?_eq_getElem hrows)
    have hplace : n.transit.toList[place] = network := by
      rw [Array.getElem?_eq_some_iff] at hnetwork
      exact hnetwork.2
    rw [List.getElem_map, List.getElem_map, hplace, transitSummary, hof.name, hof.stopCount,
      hof.connectionCount]
  unfold summary
  rw [hroads.nodeCount, hroads.sectionCount, htransit.count, hnetworks]

/-! ## Agreement -/

/-- A stop stays without the station that its row declares. -/
def Network.LeavesUnresolved (rows : MemoryRows) (n : Network) (stop : RecordId) (name : String)
    (station : RecordId) : Prop :=
  ∃ (place : Nat) (network : TransitNetwork) (handle : Handle) (left : Stop) (row : StopRow),
    (n.transit[place]? = some network ∧ network.name = name) ∧
      (network.stop? handle = some left ∧ left.id = stop ∧ left.parent = none) ∧
      rows.stopRow? place handle = some row ∧ row.Describes left ∧
      row.parentStation = some station ∧ station ≠ 0

theorem mem_unresolvedNotes {network : String} {stops : List StopRow}
    {stations : List (Option Handle)} {line : Note} :
    line ∈ unresolvedNotes network stops stations ↔
      ∃ (handle : Nat) (row : StopRow) (station : RecordId), stops[handle]? = some row ∧
        stations[handle]? = some none ∧ row.parentId = some station ∧
        line = .stationUnresolved row.id network station := by
  rw [unresolvedNotes, List.mem_map]
  constructor
  · rintro ⟨claim, hclaim, rfl⟩
    obtain ⟨⟨row, station⟩, hmem, hline⟩ := List.mem_filterMap.mp hclaim
    obtain ⟨handle, hhandle⟩ := List.mem_iff_getElem?.mp hmem
    rw [List.getElem?_zip_eq_some] at hhandle
    cases station with
    | some station => cases hline
    | none =>
      obtain ⟨id, hid, rfl⟩ := Option.map_eq_some_iff.mp hline
      exact ⟨handle, row, id, hhandle.1, hhandle.2, hid, rfl⟩
  · rintro ⟨handle, row, id, hrow, hstation, hid, rfl⟩
    refine ⟨(row.id, id), List.mem_filterMap.mpr ⟨(row, none), ?_, ?_⟩, rfl⟩
    · exact List.mem_iff_getElem?.mpr
        ⟨handle, List.getElem?_zip_eq_some.mpr ⟨hrow, hstation⟩⟩
    · simp [hid]

theorem TransitNetwork.getElem?_stations (n : TransitNetwork) (handle : Nat) :
    n.stations[handle]? = (n.stop? handle).map (·.parent) := by
  rw [stations, List.getElem?_map, Array.getElem?_toList]
  rfl

namespace MemoryRows

variable (linking : StationLinking) (rows : MemoryRows)

theorem holds_of_place {place : Nat} {t : TransitRows} {network : TransitNetwork}
    (ht : rows.usable.networks[place]? = some t)
    (hnetwork : (rows.imported linking).transit[place]? = some network) :
    network.Holds (rows.usable.sections.map (·.id)) t := by
  rw [rows.networks_usable, Option.map_eq_some_iff] at ht
  obtain ⟨given, hgiven, rfl⟩ := ht
  rw [rows.transit_imported, hgiven, Option.map_some, Option.some.injEq] at hnetwork
  exact hnetwork ▸ holds_importedTransit rows.holdsRoads_roads.sectionIndex linking given

/-- The lines about stations are those that a stop of the network gives reason for. -/
theorem mem_unresolvedNotes_imported {line : Note} :
    line ∈ rows.usable.unresolvedNotes (rows.imported linking) ↔
      ∃ stop name station, (rows.imported linking).LeavesUnresolved rows.usable stop name station ∧
        line = .stationUnresolved stop name station := by
  rw [unresolvedNotes, List.mem_flatMap]
  constructor
  · rintro ⟨⟨t, network⟩, hmem, hline⟩
    obtain ⟨place, hplace⟩ := List.mem_iff_getElem?.mp hmem
    obtain ⟨ht, hnetwork⟩ := List.getElem?_zip_eq_some.mp hplace
    rw [Array.getElem?_toList] at hnetwork
    obtain ⟨handle, row, id, hrow, hstation, hid, rfl⟩ := mem_unresolvedNotes.mp hline
    obtain ⟨stop, hstop, hbecomes⟩ := (rows.holds_of_place linking ht hnetwork).stop?_of_row hrow
    rw [network.getElem?_stations, hstop, Option.map_some, Option.some.injEq] at hstation
    have hdeclares := StopRow.parentId_eq_some_iff.mp hid
    exact ⟨row.id, network.name, id, ⟨place, network, handle, stop, row, ⟨hnetwork, rfl⟩,
      ⟨hstop, hbecomes.describes.id, hstation⟩, by simp [stopRow?, ht, hrow], hbecomes.describes,
      hdeclares.1, hdeclares.2⟩, rfl⟩
  · rintro ⟨_, _, id, ⟨place, network, handle, stop, row, ⟨hnetwork, rfl⟩, ⟨hstop, rfl, hparent⟩,
      hrow, hdescribes, hid⟩, rfl⟩
    simp only [stopRow?, Option.bind_eq_bind, Option.bind_eq_some_iff] at hrow
    obtain ⟨t, ht, hrow⟩ := hrow
    refine ⟨(t, network), List.mem_iff_getElem?.mpr ⟨place, ?_⟩, ?_⟩
    · exact List.getElem?_zip_eq_some.mpr ⟨ht, by rw [Array.getElem?_toList, hnetwork]⟩
    · refine mem_unresolvedNotes.mpr ⟨handle, row, id, hrow, ?_,
        StopRow.parentId_eq_some_iff.mpr hid, by rw [hdescribes.id]⟩
      rw [network.getElem?_stations, hstop, Option.map_some, hparent]

theorem length_unresolvedNotes_imported :
    (rows.usable.unresolvedNotes (rows.imported linking)).length =
      (rows.imported linking).stats.unresolvedParents := by
  rw [unresolvedParents_imported, unresolvedNotes, ← totalOf_length, Network.stationless]
  simp only [length_unresolvedNotes]

end MemoryRows

/-! ## The result -/

def textsAt (level : Verbosity) (lines : List Note) : List String :=
  (atLevel level lines).map Note.text

/-- A log agrees with the network of an import of rows. -/
structure Network.AgreesWithLog (rows : MemoryRows) (n : Network) (log : List Note) : Prop where
  /-- One line for each rejected row, in order, and then their number, if there are any. -/
  warnings : textsAt .warn log =
    rows.faults.map (fun (kind, failure) =>
        "Skipping " ++ kind.label ++ " row: " ++ failure.message) ++
      if 0 < n.stats.totalSkipped then
        ["Skipped " ++ toString n.stats.totalSkipped ++ " invalid rows"]
      else []
  skipped : ∀ kind, (textsAt .warn log).countP (fun text =>
      ("Skipping " ++ kind.label ++ " row: ").toList.isPrefixOf text.toList) =
    n.stats.skipped kind
  /-- One line for each stop without the station that it declares, in the order of stops. -/
  stations : textsAt .debug log =
    (rows.usable.networks.zip n.transit.toList).flatMap fun (t, network) =>
      (unresolvedClaims t.stops network.stations).map fun (stop, station) =>
        "Stop " ++ idText stop ++ " of network " ++ network.name ++ ": parent station "
          ++ idText station ++ " not resolved"
  unresolved : (textsAt .debug log).length = n.stats.unresolvedParents
  reasons : ∀ text, text ∈ textsAt .debug log ↔ ∃ stop network station,
    n.LeavesUnresolved rows.usable stop network station ∧
      text = "Stop " ++ idText stop ++ " of network " ++ network ++ ": parent station "
        ++ idText station ++ " not resolved"
  /-- One line for each imported section, in the order of handles. -/
  sections : textsAt .trace log = rows.usable.sections.map fun row =>
    "Road section " ++ idText row.id ++ " added between nodes " ++ idText row.nodeFrom ++ " and "
      ++ idText row.nodeTo
  roads : n.HasRoads rows.usable
  steps : textsAt .info log =
    [ "Importing " ++ toString rows.nodes.length ++ " road nodes",
      "Importing " ++ toString rows.sections.length ++ " road sections",
      "Importing " ++ toString (totalOf (·.stops.length) rows.networks) ++ " stops in "
        ++ toString rows.networks.length ++ " public transport networks",
      "Importing " ++ toString (totalOf (·.connections.length) rows.networks)
        ++ " public transport sections",
      "Imported " ++ n.summary ]
  summary : n.summary =
    "road network with " ++ toString rows.usable.nodes.length ++ " nodes and "
      ++ toString rows.usable.sections.length ++ " sections; "
      ++ toString rows.usable.networks.length ++ " public transport networks: ["
      ++ String.intercalate ", " (rows.usable.networks.map fun t =>
        t.name ++ " (" ++ toString t.stops.length ++ " stops, " ++ toString t.connections.length
          ++ " sections)")
      ++ "]"

/-- The line about a row that was left out begins with the name of its kind and of no other. -/
theorem isPrefixOf_skipping (kind skipped : RecordKind) (message : String) :
    ("Skipping " ++ kind.label ++ " row: ").toList.isPrefixOf
        ("Skipping " ++ skipped.label ++ " row: " ++ message).toList = (skipped == kind) := by
  simp only [String.toList_append]
  cases kind <;> cases skipped <;> rfl

theorem isPrefixOf_skipped (kind : RecordKind) (rows : Nat) :
    ("Skipping " ++ kind.label ++ " row: ").toList.isPrefixOf
        ("Skipped " ++ toString rows ++ " invalid rows").toList = false := by
  simp only [String.toList_append]
  rfl

namespace MemoryRows

variable (linking : StationLinking) (rows : MemoryRows)

theorem texts_warnings_log :
    textsAt .warn (rows.log linking) =
      rows.faults.map (fun (kind, failure) =>
          "Skipping " ++ kind.label ++ " row: " ++ failure.message) ++
        if 0 < (rows.imported linking).stats.totalSkipped then
          ["Skipped " ++ toString (rows.imported linking).stats.totalSkipped ++ " invalid rows"]
        else [] := by
  rw [textsAt, rows.warnings_log, List.map_append, List.map_map]
  split <;> rfl

theorem countP_faults (kind : RecordKind) :
    rows.faults.countP (·.1 == kind) = (rows.imported linking).stats.skipped kind := by
  rw [imported, rows.skipped_account, rows.rejected_eq_faults linking]

theorem countP_texts_warnings_log (kind : RecordKind) :
    (textsAt .warn (rows.log linking)).countP (fun text =>
        ("Skipping " ++ kind.label ++ " row: ").toList.isPrefixOf text.toList) =
      (rows.imported linking).stats.skipped kind := by
  have hfaults : rows.faults.countP ((fun text : String =>
        ("Skipping " ++ kind.label ++ " row: ").toList.isPrefixOf text.toList) ∘
          fun (kind, failure) => "Skipping " ++ kind.label ++ " row: " ++ failure.message) =
      rows.faults.countP (·.1 == kind) :=
    List.countP_congr fun fault _ => by rw [Function.comp_apply, isPrefixOf_skipping]
  rw [texts_warnings_log, List.countP_append, List.countP_map, hfaults, rows.countP_faults linking]
  split
  · rw [List.countP_singleton, isPrefixOf_skipped]
    rfl
  · rfl

/-- The texts of the lines about stations, and what they are told from. -/
theorem mem_texts_debugs_log {text : String} :
    text ∈ textsAt .debug (rows.log linking) ↔ ∃ stop network station,
      (rows.imported linking).LeavesUnresolved rows.usable stop network station ∧
        text = "Stop " ++ idText stop ++ " of network " ++ network ++ ": parent station "
          ++ idText station ++ " not resolved" := by
  rw [textsAt, rows.debugs_log, List.mem_map]
  constructor
  · rintro ⟨line, hline, rfl⟩
    obtain ⟨stop, network, station, hleaves, rfl⟩ :=
      (rows.mem_unresolvedNotes_imported linking).mp hline
    exact ⟨stop, network, station, hleaves, rfl⟩
  · rintro ⟨stop, network, station, hleaves, rfl⟩
    exact ⟨_, (rows.mem_unresolvedNotes_imported linking).mpr ⟨_, _, _, hleaves, rfl⟩, rfl⟩

theorem agreesWithLog_imported : (rows.imported linking).AgreesWithLog rows (rows.log linking) where
  warnings := rows.texts_warnings_log linking
  skipped := rows.countP_texts_warnings_log linking
  stations := by
    rw [textsAt, rows.debugs_log, unresolvedNotes, List.map_flatMap]
    simp only [Multimodal.unresolvedNotes, List.map_map]
    rfl
  unresolved := by
    rw [textsAt, List.length_map, rows.debugs_log, rows.length_unresolvedNotes_imported]
  reasons := fun _ => rows.mem_texts_debugs_log linking
  sections := by
    rw [textsAt, rows.traces_log, List.map_map]
    rfl
  roads := (rows.holdsRoads_imported linking).hasRoads
  steps := by
    rw [textsAt, rows.infos_log]
    rfl
  summary := Network.summary_eq (rows.holdsRoads_imported linking).hasRoads
    (rows.hasTransit_imported linking)

end MemoryRows

/-- A successful import writes the log of its rows. -/
theorem RowSource.notes_eq_log {source : RowSource} {options : ImportOptions} {n : Network}
    (h : (importNetwork source options).outcome = .ok n) :
    (importNetwork source options).notes = source.rows.log options.stationLinking := by
  obtain ⟨m, hm, hclear⟩ | ⟨step, failure, hfailure, -⟩ := importNetwork_cases source options
  · have hsource := hclear.eq_source
    rw [hsource, outcome_importNetwork_source] at h
    have hlog := notes_importNetwork_source ((exists_settle_eq_ok_iff _ _ _).mp ⟨n, h⟩)
    rwa [← hsource] at hlog
  · rw [hfailure] at h
    cases h

/-- The log of a successful import agrees with its network. Under a policy that fails it has no
warnings, even if the import fails. -/
theorem importNetwork_logs_what_it_does (source : RowSource) (options : ImportOptions) :
    (∀ n, (importNetwork source options).outcome = .ok n →
      n.AgreesWithLog source.rows (importNetwork source options).notes) ∧
    (options.onRowError = .fail →
      ∀ line ∈ (importNetwork source options).notes, line.level ≠ .warn) := by
  constructor
  · intro n h
    rw [RowSource.notes_eq_log h, RowSource.eq_imported h]
    exact source.rows.agreesWithLog_imported options.stationLinking
  · intro hpolicy
    obtain ⟨policy, linking⟩ := options
    obtain rfl : policy = .fail := hpolicy
    exact calm_importNetwork source linking

/-- With one pass over the stops of `families` four stations stay unresolved. The rows of `deadEnd`
end an import that fails at the first rejected row. -/
theorem importNetwork_logs_what_it_does_families :
    ∃ n, (importNetwork families.source ⟨.skip, .singlePass⟩).outcome = .ok n ∧
      n.AgreesWithLog families (importNetwork families.source ⟨.skip, .singlePass⟩).notes ∧
      textsAt .warn (importNetwork families.source ⟨.skip, .singlePass⟩).notes =
        [ "Skipping stop row: Malformed stop record at row 5: stop 9: abscissa 2 is outside [0, 1]",
          "Skipped 1 invalid rows" ] ∧
      textsAt .debug (importNetwork families.source ⟨.skip, .singlePass⟩).notes =
        [ "Stop 11 of network bus: parent station 12 not resolved",
          "Stop 13 of network bus: parent station 13 not resolved",
          "Stop 15 of network bus: parent station 9 not resolved",
          "Stop 16 of network bus: parent station 21 not resolved" ] ∧
      ∀ line ∈ (importNetwork deadEnd ⟨.fail, .twoPass⟩).notes, line.level ≠ .warn := by
  have houtcome := outcome_importNetwork_skip families .singlePass
  have hagrees :=
    (importNetwork_logs_what_it_does families.source ⟨.skip, .singlePass⟩).1 _ houtcome
  refine ⟨_, houtcome, hagrees, ?_, ?_,
    (importNetwork_logs_what_it_does deadEnd ⟨.fail, .twoPass⟩).2 rfl⟩
  · rw [hagrees.warnings]
    decide +kernel
  · rw [hagrees.stations]
    decide +kernel

end Multimodal
