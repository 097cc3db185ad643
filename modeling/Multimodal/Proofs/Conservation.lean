import Multimodal.Proofs.StationNotes

/-!
# No row is lost

Every row of a successful import either became a record or was rejected, and the import's account
says how many of each kind were rejected. A rejected row is one that the log says is skipped
(`Report.rejections`); under a policy that fails there is none.

* `RowSource.ClearTo.rejections_eq`: the log names the refused rows, in their order.
* `linkedCount_add_unresolved`: a stop that declares a station is linked to one or
  counted as unresolved.
* `importNetwork_conserves_rows`: the account of an import.
-/
namespace Multimodal

/-! ## Rejected rows in the log -/

/-- The row that an event rejects: its kind and its failure. -/
def Event.rejection? : Event → Option (RecordKind × Failure)
  | .note (.rowSkipped kind cause) => some (kind, cause)
  | _ => none

@[simp] theorem Event.rejection?_rowSkipped (kind : RecordKind) (cause : Failure) :
    (Event.note (.rowSkipped kind cause)).rejection? = some (kind, cause) := rfl

/-- The rejected rows that the log names. -/
def Report.rejections {α : Type} (r : Report α) : List (RecordKind × Failure) :=
  r.heard Event.rejection?

theorem hearsSkips_rejection? : HearsSkips Event.rejection? := by
  intro line h
  cases line with
  | rowSkipped kind cause => exact absurd rfl (h kind cause)
  | _ => rfl

def NoSkips (notes : List Note) : Prop :=
  ∀ line ∈ notes, ∀ kind cause, line ≠ .rowSkipped kind cause

theorem NoSkips.rejections {notes : List Note} (h : NoSkips notes) :
    (notes.map Event.note).filterMap Event.rejection? = [] := by
  rw [List.filterMap_map, List.filterMap_eq_nil_iff]
  intro line hline
  exact hearsSkips_rejection? line (h line hline)

/-- The refused rows that a policy has the log name. -/
def RowPolicy.named {α : Type} (policy : RowPolicy) (refused : List α) : List α :=
  match policy with
  | .skip => refused
  | .fail => []

/-- An accepted row is not said to be skipped. -/
def Acceptance.Quiet {ρ σ : Type} (accept : Acceptance ρ σ) : Prop :=
  ∀ position row state next notes, accept position row state = .ok (next, notes) → NoSkips notes

theorem rejections_pass {ρ σ : Type} {accept : Acceptance ρ σ} (hquiet : accept.Quiet)
    (policy : RowPolicy) (kind : RecordKind) (tick : Nat → Event)
    (htick : ∀ i, (tick i).rejection? = none) (position : Nat) (rows : List ρ) (state : σ) :
    (pass policy kind tick accept position rows state).rejections =
      policy.named ((accept.refusals position rows state).map (kind, ·)) := by
  induction rows generalizing position state with
  | nil => cases policy <;> rfl
  | cons row rest ih =>
    rw [Report.rejections, pass]
    cases h : accept position row state with
    | ok result =>
      have hrest := ih (position + 1) result.1
      rw [Report.rejections] at hrest
      simp only [Report.heard_announce_bind, hrest, List.filterMap_append,
        (hquiet _ _ _ _ _ h).rejections, Acceptance.refusals, h]
      simp [htick]
    | error failure =>
      cases policy with
      | fail => rfl
      | skip =>
        have hrest := ih (position + 1) state
        rw [Report.rejections] at hrest
        simp only [Report.heard_announce_bind, Report.heard_bind_pure, hrest, Acceptance.refusals,
          h]
        simp [htick, RowPolicy.named]

/-! ## Accepted rows -/

/-- Lines of another level than that of warnings say of no row that it is skipped. -/
theorem noSkips_of_level {notes : List Note} {level : Verbosity} (hlevel : level ≠ .warn)
    (h : ∀ line ∈ notes, line.level = level) : NoSkips notes := by
  rintro line hline kind cause rfl
  exact hlevel (h _ hline).symm

theorem Acceptance.NotesAt.quiet {ρ σ : Type} {accept : Acceptance ρ σ} {level : Verbosity}
    (h : accept.NotesAt level) (hlevel : level ≠ .warn) : accept.Quiet :=
  fun position row state next notes haccepted =>
    noSkips_of_level hlevel (h position row state next notes haccepted)

/-! ## The log of an import -/

theorem named_append {α : Type} (policy : RowPolicy) (refused more : List α) :
    policy.named (refused ++ more) = policy.named refused ++ policy.named more := by
  cases policy <;> rfl

theorem rejections_importNodes (policy : RowPolicy) (nodes : List NodeRow) :
    (importNodes policy nodes Network.empty).rejections =
      policy.named ((nodeRefusals nodes).map (RecordKind.roadNode, ·)) :=
  rejections_pass (notesAt_offerNode.quiet (by decide)) policy _ _ (fun _ => rfl) 0 nodes
    Network.empty

theorem rejections_importSections (policy : RowPolicy) (nodes : List NodeRow)
    (sections : List SectionRow) :
    (importSections policy sections (importedNodes nodes)).rejections =
      policy.named ((sectionRefusals nodes sections).map (RecordKind.roadSection, ·)) :=
  rejections_pass (notesAt_offerSection.quiet (by decide)) policy _ _ (fun _ => rfl) 0 sections _

theorem rejections_importStops (options : ImportOptions) (index : IdIndex) (done total : Nat)
    (rows : TransitRows) :
    (importStops options index done total rows).rejections = options.onRowError.named
      ((stopRefusals options.stationLinking index rows).map (RecordKind.stop, ·)) := by
  have hquiet := (StopIntake.notesAt_offer options.stationLinking index).quiet (by decide)
  have hpass := rejections_pass hquiet
    options.onRowError .stop (fun position => .row .stop (done + position) total) (fun _ => rfl) 0
    rows.stops (emptyIntake rows)
  rw [importStops, Report.rejections, Report.heard_bind_of_quiet]
  · exact hpass
  · intro result
    refine (Report.heard_bind_pure (Report.log result.1.settle.2) _).trans ?_
    exact (noSkips_of_level (by decide) result.1.notesAt_settle).rejections

/-- What the log names over networks is what it names for each. -/
theorem InTurn.rejections {β γ : Type} {policy : RowPolicy} {kind : RecordKind}
    {refusals : β → List Failure} {size : β → Nat} {one : Nat → β → Report γ}
    {all : Nat → List β → Report (List γ)} (inTurn : InTurn size one all)
    (hone : ∀ done item, (one done item).rejections =
      policy.named ((refusals item).map (kind, ·)))
    (hok : ∀ done item, policy = .skip → errorOf (one done item).outcome = none)
    (done : Nat) (items : List β) :
    (all done items).rejections = policy.named ((items.flatMap refusals).map (kind, ·)) := by
  induction items generalizing done with
  | nil =>
    refine (inTurn.heard_nil done).trans ?_
    cases policy <;> rfl
  | cons item rest ih =>
    have hitem := hone done item
    have hrest := ih (done + size item)
    rw [Report.rejections] at hitem hrest ⊢
    rw [List.flatMap_cons, List.map_append, named_append]
    cases houtcome : (one done item).outcome with
    | error failure =>
      cases policy with
      | skip =>
        have hnone := hok done item rfl
        rw [houtcome] at hnone
        cases hnone
      | fail => rw [inTurn.heard_cons_of_error houtcome, hitem]; rfl
    | ok first => rw [inTurn.heard_cons_of_ok houtcome, hitem, hrest]

theorem rejections_importAllStops (options : ImportOptions) (index : IdIndex) (total : Nat)
    (networks : List TransitRows) :
    (importAllStops options index total 0 networks).rejections = options.onRowError.named
      ((networks.flatMap (stopRefusals options.stationLinking index)).map
        (RecordKind.stop, ·)) := by
  refine (inTurn_importAllStops options index total).rejections
    (fun done rows => rejections_importStops options index done total rows) ?_ 0 networks
  intro done rows hskip
  rw [outcome_importStops, hskip]
  rfl

theorem rejections_importAllConnections (policy : RowPolicy) (linking : StationLinking)
    (index : IdIndex) (total : Nat) (networks : List TransitRows) :
    (importAllConnections policy total 0 (networks.map (stopYield linking index))).rejections =
      policy.named ((networks.flatMap (connectionRefusals linking index)).map
        (RecordKind.transitSection, ·)) := by
  refine (inTurn_importAllConnections policy linking index total).rejections ?_ ?_ 0 networks
  · intro done rows
    exact rejections_pass (notesAt_offerConnection.quiet (by decide)) policy _ _ (fun _ => rfl) 0
      rows.connections _
  · intro done rows hskip
    rw [outcome_importConnections, hskip]
    rfl

/-- The refused rows of an import by kind, in the order in which it meets them. -/
def MemoryRows.rejected (rows : MemoryRows) (linking : StationLinking) :
    List (RecordKind × Failure) :=
  (nodeRefusals rows.nodes).map (.roadNode, ·) ++
    (sectionRefusals rows.nodes rows.sections).map (.roadSection, ·) ++
    (rows.networks.flatMap (stopRefusals linking rows.roads.sectionIndex)).map (.stop, ·) ++
    (rows.networks.flatMap (connectionRefusals linking rows.roads.sectionIndex)).map
      (.transitSection, ·)

theorem named_of_passes {policy : RowPolicy} {refusals : List Failure}
    (h : policy.Passes refusals) (kind : RecordKind) :
    policy.named (refusals.map (kind, ·)) = refusals.map (kind, ·) := by
  cases policy with
  | skip => rfl
  | fail =>
    obtain rfl := h.resolve_left (by simp)
    rfl

/-- The log of an import that no step ends names the rows that are refused, in their order. -/
theorem RowSource.ClearTo.rejections_eq {source : RowSource} {options : ImportOptions}
    (h : source.ClearTo options.onRowError 7) :
    (importNetwork source options).rejections = source.rows.rejected options.stationLinking := by
  have hheard (l : Nat) : (source.phases options Event.rejection?)[l]?.map (·.1) =
      ([[], (nodeRefusals source.rows.nodes).map (.roadNode, ·), [],
        (sectionRefusals source.rows.nodes source.rows.sections).map (.roadSection, ·), [],
        (source.rows.networks.flatMap (stopRefusals options.stationLinking
          source.rows.roads.sectionIndex)).map (.stop, ·),
        (source.rows.networks.flatMap (connectionRefusals options.stationLinking
          source.rows.roads.sectionIndex)).map (.transitSection, ·), []] :
          List (List (RecordKind × Failure)))[l]? := by
    match l with
    | 0 | 2 | 4 | 7 => rfl
    | 1 =>
      exact congrArg some ((rejections_importNodes _ _).trans
        (named_of_passes (h.nodes (by omega)) _))
    | 3 =>
      exact congrArg some ((rejections_importSections _ _ _).trans
        (named_of_passes (h.sections (by omega)) _))
    | 5 =>
      exact congrArg some ((rejections_importAllStops _ _ _ _).trans
        (named_of_passes (h.stops (by omega) _) _))
    | 6 =>
      exact congrArg some ((rejections_importAllConnections _ _ _ _ _).trans
        (named_of_passes (h.connections (by omega) _) _))
    | n + 8 => rfl
  rw [Report.rejections, heard_importNetwork hearsSkips_rejection?,
    untilFailure_of_clear hheard h.all_phases_eq_none]
  simp [MemoryRows.rejected]

/-! ## Stations -/

/-- Whether a row declares a station; zero declares none. -/
def StopRow.declaresStation (row : StopRow) : Bool := row.parentStation.any (· != 0)

theorem StopRow.isSome_parentId (row : StopRow) : row.parentId.isSome = row.declaresStation := by
  rw [parentId, declaresStation]
  cases row.parentStation with
  | none => rfl
  | some id => by_cases h : id = 0 <;> simp [Option.filter, h]

/-- The number of stop rows that declare a station. -/
def MemoryRows.declaredStations (rows : MemoryRows) : Nat :=
  totalOf (fun t => t.stops.countP StopRow.declaresStation) rows.networks

def TransitNetwork.linkedCount (n : TransitNetwork) : Nat :=
  n.graph.vertices.toList.countP Stop.hasParent

def Network.linkedCount (n : Network) : Nat := totalOf (·.linkedCount) n.transit.toList

/-- Rows that declare a station have one or none. -/
theorem countP_stationsOf_add_stationless (linking : StationLinking)
    (find? : RecordId → Option Handle) (first : Handle) (stops : List StopRow) :
    (stationsOf linking find? first stops).countP Option.isSome +
        stationless stops (stationsOf linking find? first stops) =
      stops.countP StopRow.declaresStation := by
  induction stops generalizing first with
  | nil => rfl
  | cons row rest ih =>
    have hrest := ih (first + 1)
    have hrow : row.station? linking find? first ≠ none → row.declaresStation = true := by
      rw [← row.isSome_parentId]
      intro hsome
      obtain ⟨station, hstation⟩ := Option.ne_none_iff_exists'.mp hsome
      obtain ⟨id, hid, -⟩ := StopRow.station?_eq_some_iff.mp hstation
      simp [hid]
    simp only [stationsOf, stationless, List.zipIdx_cons, List.map_cons, List.zip_cons_cons,
      List.countP_cons, row.isSome_parentId] at hrest ⊢
    cases hstation : row.station? linking find? first with
    | some station => simp [hrow (by simp [hstation])] at hrest ⊢; omega
    | none => cases row.declaresStation <;> simp at hrest ⊢ <;> omega

theorem TransitNetwork.linkedCount_eq (n : TransitNetwork) :
    n.linkedCount = n.stations.countP Option.isSome := by
  rw [linkedCount, stations, List.countP_map]
  rfl

/-- The stops of an imported network that are linked to a station, and those that the import counts
as unresolved, are those whose rows declare one. -/
theorem linkedCount_add_unresolved {index : IdIndex} {sections : List RecordId}
    (hindex : index.Lists .roadSection sections) (linking : StationLinking) (t : TransitRows) :
    (importedTransit linking index t).linkedCount + (settledStops linking index t).unresolved =
      (validStops sections t.stops).countP StopRow.declaresStation := by
  rw [TransitNetwork.linkedCount_eq, unresolved_settledStops hindex,
    stations_importedTransit hindex]
  exact countP_stationsOf_add_stationless linking _ 0 _

/-! ## The account of an import -/

/-- Every row became a record or was skipped. -/
structure MemoryRows.AccountedFor (rows : MemoryRows) (n : Network) : Prop where
  nodes : n.road.order + n.stats.skippedNodes = rows.nodes.length
  sections : n.road.size + n.stats.skippedSections = rows.sections.length
  stops : totalOf (·.stopCount) n.transit.toList + n.stats.skippedStops =
    totalOf (·.stops.length) rows.networks
  connections : totalOf (·.connectionCount) n.transit.toList + n.stats.skippedConnections =
    totalOf (·.connections.length) rows.networks

namespace MemoryRows

variable (rows : MemoryRows) (linking : StationLinking)

theorem accountedFor_imported : rows.AccountedFor (rows.imported linking) := by
  have hleaves := rows.leavesOut_accepted linking
  have hroads := (rows.holdsRoads_imported linking).hasRoads
  rw [rows.accepted_eq_usable linking] at hleaves
  have hindex := rows.holdsRoads_roads.sectionIndex
  have hof (t : TransitRows) := (holds_importedTransit hindex linking t).isOf
    (rows.holdsRoads_imported linking)
  have hstops : totalOf (·.stopCount) (rows.imported linking).transit.toList =
      totalOf (·.stops.length) rows.usable.networks := by
    simp only [imported, usable, totalOf_map, (hof _).stopCount]
  have hconnections : totalOf (·.connectionCount) (rows.imported linking).transit.toList =
      totalOf (·.connections.length) rows.usable.networks := by
    simp only [imported, usable, totalOf_map, (hof _).connectionCount]
  exact
    { nodes := hroads.nodeCount ▸ hleaves.nodeCount
      sections := hroads.sectionCount ▸ hleaves.sectionCount
      stops := hstops ▸ hleaves.stopCount
      connections := hconnections ▸ hleaves.connectionCount }

theorem linkedCount_imported :
    (rows.imported linking).linkedCount + (rows.imported linking).stats.unresolvedParents =
      rows.usable.declaredStations := by
  have hindex := rows.holdsRoads_roads.sectionIndex
  simp only [Network.linkedCount, imported, account, declaredStations, usable, totalOf_map]
  exact totalOf_add (fun t => linkedCount_add_unresolved hindex linking t) rows.networks

/-- The account counts the refused rows of each kind. -/
theorem skipped_account (kind : RecordKind) :
    (rows.account linking).skipped kind = (rows.rejected linking).countP (·.1 == kind) := by
  have hself (refusals : List Failure) (k : RecordKind) :
      (refusals.map (k, ·)).countP (·.1 == kind) = if k = kind then refusals.length else 0 := by
    by_cases h : k = kind <;> simp [List.countP_map, Function.comp_def, h]
  simp only [rejected, List.countP_append, hself]
  cases kind <;> simp [account, ImportStats.skipped]

theorem length_rejected : (rows.rejected linking).length = (rows.account linking).totalSkipped := by
  simp only [rejected, account, ImportStats.totalSkipped, List.length_append, List.length_map]

end MemoryRows

theorem ImportStats.skipped_le_totalSkipped (stats : ImportStats) (kind : RecordKind) :
    stats.skipped kind ≤ stats.totalSkipped := by
  cases kind <;> simp only [skipped, totalSkipped] <;> omega

/-- Where no step ends the import, all streams are there. -/
theorem RowSource.ClearTo.eq_source {source : RowSource} {policy : RowPolicy}
    (h : source.ClearTo policy 7) : source = source.rows.source := by
  have hnodes := h.askNodes (by omega)
  have hsections := h.askSections (by omega)
  have hnetworks := h.askNetworks (by omega)
  obtain ⟨_ | nodes, _ | sections, _ | networks⟩ := source <;> simp at hnodes hsections hnetworks
  rfl

/-- A successful import asked for all streams and makes the network of their rows. -/
theorem RowSource.eq_imported {source : RowSource} {options : ImportOptions} {n : Network}
    (h : (importNetwork source options).outcome = .ok n) :
    n = source.rows.imported options.stationLinking := by
  obtain ⟨m, hm, hclear⟩ | ⟨step, failure, hfailure, -⟩ := importNetwork_cases source options
  · rw [hclear.eq_source] at h
    exact eq_imported_of_outcome_eq_ok source.rows options.stationLinking h
  · rw [hfailure] at h
    cases h

/-- In a successful import every row of every kind became a record or was skipped, and every stop
whose row declares a station is linked to one or counted as unresolved. The account counts the rows
that the log says are rejected, kind by kind. Under a policy that fails there are none. -/
theorem importNetwork_conserves_rows {source : RowSource} {options : ImportOptions} {n : Network}
    (h : (importNetwork source options).outcome = .ok n) :
    source.rows.AccountedFor n ∧
      (n.linkedCount + n.stats.unresolvedParents = source.rows.usable.declaredStations ∧
        n.HasTransit source.rows.usable) ∧
      ((∀ kind, n.stats.skipped kind =
          (importNetwork source options).rejections.countP (·.1 == kind)) ∧
        n.stats.totalSkipped = (importNetwork source options).rejections.length) ∧
      (options.onRowError = .fail → ∀ kind, n.stats.skipped kind = 0) := by
  obtain ⟨policy, linking⟩ := options
  obtain ⟨m, hm, hclear⟩ | ⟨step, failure, hfailure, -⟩ :=
    importNetwork_cases source ⟨policy, linking⟩
  · have hrows := hclear.eq_source
    have hrejections := hclear.rejections_eq
    rw [hrows] at h
    obtain rfl := eq_imported_of_outcome_eq_ok source.rows linking h
    refine ⟨source.rows.accountedFor_imported linking,
      ⟨source.rows.linkedCount_imported linking, source.rows.hasTransit_imported linking⟩,
      ⟨fun kind => ?_, ?_⟩, ?_⟩
    · rw [hrejections]
      exact source.rows.skipped_account linking kind
    · rw [hrejections]
      exact (source.rows.length_rejected linking).symm
    · rintro hpolicy kind
      obtain rfl : policy = .fail := hpolicy
      have hnone := ((outcome_importNetwork_fail_eq_ok_iff source.rows linking _).mp h).1
      have htotal : (source.rows.account linking).totalSkipped = 0 := by
        rw [source.rows.totalSkipped_account linking, hnone, List.length_nil]
      exact Nat.le_zero.mp (htotal ▸ ImportStats.skipped_le_totalSkipped _ kind)
  · rw [hfailure] at h
    cases h

/-- In `families` four of five declared stations stay unresolved in one pass, and a stop is off its
section. The rows of `straight` can all be used. -/
theorem importNetwork_conserves_rows_families :
    (∃ n, (importNetwork families.source ⟨.skip, .singlePass⟩).outcome = .ok n ∧
      families.AccountedFor n ∧ n.linkedCount + n.stats.unresolvedParents = 5 ∧
      n.linkedCount = 1 ∧ n.stats.skippedStops = 1 ∧ n.stats.totalSkipped = 1) ∧
    ∃ n, (importNetwork straight.source ⟨.fail, .twoPass⟩).outcome = .ok n ∧
      ∀ kind, n.stats.skipped kind = 0 := by
  have hskip := outcome_importNetwork_skip families .singlePass
  obtain ⟨hrows, ⟨hstations, -⟩, ⟨hkinds, htotal⟩, -⟩ := importNetwork_conserves_rows hskip
  have hfail := (outcome_importNetwork_fail_eq_ok_iff straight .twoPass _).mpr
    ⟨by decide +kernel, rfl⟩
  obtain ⟨-, -, -, hnone⟩ := importNetwork_conserves_rows hfail
  exact ⟨⟨_, hskip, hrows, hstations.trans (by decide +kernel), by decide +kernel,
    (hkinds .stop).trans (by decide +kernel), htotal.trans (by decide +kernel)⟩, _, hfail,
    hnone rfl⟩

end Multimodal
