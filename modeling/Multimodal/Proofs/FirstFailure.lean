import Multimodal.Proofs.Imported
import Multimodal.Proofs.Steps

/-!
# The failure of an import

The refusals of a phase are the failures of its steps, so an import ends with the failure of the
first step that fails, if one does.

* `importNetwork_fail_cases`: either no step fails and the import succeeds, or it ends with the
  failure of the first step that fails.
* `importNetwork_reports_first_failure`: moreover, the failure of a row names the row, and if it is
  a reference that leads nowhere, the id was not registered when the import came to the row.
-/
namespace Multimodal

/-! ## Refusals as failures of steps -/

section
variable (rows : MemoryRows) (linking : StationLinking)

theorem firstOf_nodeRefusals :
    FirstOf (fun i => rows.failureAt (.node i)) (nodeRefusals rows.nodes).head? := by
  simpa [MemoryRows.failureAt, nodeRefusals] using
    Network.follows_offerNode.firstOf_refusals Network.empty Network.holdsRoads_empty rows.nodes

theorem firstOf_sectionRefusals :
    FirstOf (fun i => rows.failureAt (.roadSection i))
      (sectionRefusals rows.nodes rows.sections).head? := by
  have h := (Network.follows_offerSection (firsts (·.id) rows.nodes)).firstOf_refusals
    (importedNodes rows.nodes) (holdsRoads_importedNodes rows.nodes) rows.sections
  simpa [MemoryRows.failureAt, sectionRefusals, SectionRow.checks, mem_map_firsts] using h

variable {rows}

theorem usable_sections_eq (h : sectionRefusals rows.nodes rows.sections = []) :
    rows.usable.sections = rows.sections :=
  (accepted_offerSection rows.nodes rows.sections).symm.trans (accepted_eq_of_refusals_eq_nil _ h)

theorem lists_sectionIndex (h : sectionRefusals rows.nodes rows.sections = []) :
    rows.roads.sectionIndex.Lists .roadSection (rows.sections.map (·.id)) := by
  have hindex := rows.holdsRoads_roads.sectionIndex
  rwa [usable_sections_eq h] at hindex

theorem firstOf_stopRefusals (h : sectionRefusals rows.nodes rows.sections = []) {j : Nat}
    {t : TransitRows} (ht : rows.networks[j]? = some t) :
    FirstOf (fun i => rows.failureAt (.stop j i))
      (stopRefusals linking rows.roads.sectionIndex t).head? := by
  simpa [MemoryRows.failureAt, ht, stopRefusals] using
    (StopIntake.follows_offer linking (lists_sectionIndex h) t.networkId t.name).firstOf_refusals
      (emptyIntake t) (TransitNetwork.holds_empty _ _ _) t.stops

theorem firstOfAll_stopRefusals (h : sectionRefusals rows.nodes rows.sections = []) :
    FirstOfAll (fun j i => rows.failureAt (.stop j i))
      (rows.networks.flatMap (stopRefusals linking rows.roads.sectionIndex)).head? := by
  apply firstOfAll_flatMap
  · intro j t ht
    exact firstOf_stopRefusals linking h ht
  · intro j hj i
    simp [MemoryRows.failureAt, hj]

theorem holds_settledStops_of_stopRefusals_eq_nil {t : TransitRows}
    (h : sectionRefusals rows.nodes rows.sections = [])
    (hstops : stopRefusals linking rows.roads.sectionIndex t = []) :
    (settledStops linking rows.roads.sectionIndex t).network.Holds (rows.sections.map (·.id))
      ⟨t.networkId, t.name, t.stops, []⟩ := by
  have hindex := lists_sectionIndex h
  have hvalid : validStops (rows.sections.map (·.id)) t.stops = t.stops :=
    (accepted_offerStop hindex linking t).symm.trans (accepted_eq_of_refusals_eq_nil _ hstops)
  have hholds := holds_settledStops hindex linking t
  rwa [hvalid] at hholds

theorem firstOf_connectionRefusals (h : sectionRefusals rows.nodes rows.sections = []) {j : Nat}
    {t : TransitRows} (ht : rows.networks[j]? = some t)
    (hstops : stopRefusals linking rows.roads.sectionIndex t = []) :
    FirstOf (fun i => rows.failureAt (.connection j i))
      (connectionRefusals linking rows.roads.sectionIndex t).head? := by
  have hholds := holds_settledStops_of_stopRefusals_eq_nil linking h hstops
  simpa [MemoryRows.failureAt, ht, connectionRefusals] using
    (TransitNetwork.follows_offerConnection _ ⟨t.networkId, t.name, t.stops, []⟩).firstOf_refusals
      _ hholds t.connections

theorem firstOfAll_connectionRefusals (h : sectionRefusals rows.nodes rows.sections = [])
    (hstops : rows.networks.flatMap (stopRefusals linking rows.roads.sectionIndex) = []) :
    FirstOfAll (fun j i => rows.failureAt (.connection j i))
      (rows.networks.flatMap (connectionRefusals linking rows.roads.sectionIndex)).head? := by
  apply firstOfAll_flatMap
  · intro j t ht
    have hnone : stopRefusals linking rows.roads.sectionIndex t = [] :=
      List.flatMap_eq_nil_iff.mp hstops t (List.mem_of_getElem? ht)
    exact firstOf_connectionRefusals linking h ht hnone
  · intro j hj i
    simp [MemoryRows.failureAt, hj]

end

/-! ## One phase after another -/

section
variable {α β : Type}

@[simp] theorem errorOf_ok (value : α) : errorOf (.ok value) = none := rfl

@[simp] theorem errorOf_error (failure : Failure) :
    errorOf (.error failure : Except Failure α) = some failure := rfl

@[simp] theorem errorOf_ok_bind (value : α) (next : α → Except Failure β) :
    errorOf ((Except.ok value).bind next) = errorOf (next value) := rfl

@[simp] theorem errorOf_error_bind (failure : Failure) (next : α → Except Failure β) :
    errorOf ((Except.error failure).bind next) = some failure := rfl

@[simp] theorem errorOf_settle (refusals : List Failure) (value : α) :
    errorOf (RowPolicy.fail.settle refusals value) = refusals.head? := by
  cases refusals <;> rfl

@[simp] theorem errorOf_settle_bind (refusals : List Failure) (value : α)
    (next : α → Except Failure β) :
    errorOf ((RowPolicy.fail.settle refusals value).bind next) =
      refusals.head?.or (errorOf (next value)) := by
  cases refusals <;> rfl

end

/-- An import fails in the first phase that does. -/
theorem errorOf_outcome_importNetwork (source : RowSource) (linking : StationLinking) :
    errorOf (importNetwork source ⟨.fail, linking⟩).outcome =
      ((((((errorOf source.nodes).or (nodeRefusals source.rows.nodes).head?).or
        (errorOf source.sections)).or
        (sectionRefusals source.rows.nodes source.rows.sections).head?).or
        (errorOf source.networks)).or
        (source.rows.networks.flatMap
          (stopRefusals linking source.rows.roads.sectionIndex)).head?).or
        (source.rows.networks.flatMap
          (connectionRefusals linking source.rows.roads.sectionIndex)).head? := by
  obtain ⟨nodes, sections, networks⟩ := source
  rw [outcome_importNetwork]
  cases nodes with
  | error failure => simp
  | ok nodes =>
    cases sections with
    | error failure => simp [RowSource.rows, Except.toOption]
    | ok sections =>
      cases networks with
      | error failure => simp [RowSource.rows, Except.toOption]
      | ok networks =>
        simp [RowSource.rows, Except.toOption, MemoryRows.transitRefusals, MemoryRows.roads,
          Option.or_assoc]

namespace RowSource

variable {source : RowSource}

/-- No step of the first phases fails. -/
def Clear (source : RowSource) (phases : Nat) : Prop :=
  ∀ step : ImportStep, step.place.1 < phases → source.failureAt step = none

/-- What the first phases come to: the failure of the first step that fails, if one does. -/
def Meets (source : RowSource) (phases : Nat) : Option Failure → Prop
  | none => source.Clear phases
  | some failure => ∃ step, source.FailsFirst step failure

/-- What one phase comes to, whatever is before it. -/
def MeetsIn (source : RowSource) (phase : Nat) : Option Failure → Prop
  | none => ∀ step : ImportStep, step.place.1 = phase → source.failureAt step = none
  | some failure => ∃ step : ImportStep, step.place.1 = phase ∧
      source.failureAt step = some failure ∧ ∀ other : ImportStep, other.place.1 = phase →
        other.Precedes step → source.failureAt other = none

theorem meets_zero : source.Meets 0 none := fun _ h => absurd h (by omega)

/-- A further phase matters only when no step before it fails. -/
theorem Meets.or {phases : Nat} {a b : Option Failure} (ha : source.Meets phases a)
    (hb : source.Clear phases → source.MeetsIn phases b) :
    source.Meets (phases + 1) (a.or b) := by
  cases a with
  | some failure => exact ha
  | none =>
    have hphase := hb ha
    cases b with
    | none =>
      intro step hstep
      by_cases hlt : step.place.1 < phases
      · exact ha step hlt
      · exact hphase step (by omega)
    | some failure =>
      obtain ⟨step, hplace, hfail, hbefore⟩ := hphase
      refine ⟨step, hfail, ?_⟩
      intro other hother
      by_cases hlt : other.place.1 < phases
      · exact ha other hlt
      · refine hbefore other ?_ hother
        unfold ImportStep.Precedes at hother
        omega

theorem meetsIn_step (step : ImportStep)
    (alone : ∀ other : ImportStep, other.place.1 = step.place.1 → other = step) :
    source.MeetsIn step.place.1 (source.failureAt step) := by
  cases hfail : source.failureAt step with
  | none =>
    intro other hother
    rw [alone other hother, hfail]
  | some failure =>
    refine ⟨step, rfl, hfail, ?_⟩
    intro other hother hbefore
    obtain rfl := alone other hother
    unfold ImportStep.Precedes at hbefore
    omega

/-- A phase over the rows of one stream. -/
theorem meetsIn_rows {phase : Nat} (step : Nat → ImportStep) {first : Option Failure}
    (hplace : ∀ i, (step i).place = (phase, 0, i))
    (hphase : ∀ other : ImportStep, other.place.1 = phase → ∃ i, other = step i)
    (hfirst : FirstOf (fun i => source.failureAt (step i)) first) :
    source.MeetsIn phase first := by
  cases first with
  | none =>
    intro other hother
    obtain ⟨i, rfl⟩ := hphase other hother
    exact hfirst i
  | some failure =>
    obtain ⟨i, hfail, hbefore⟩ := hfirst
    refine ⟨step i, by rw [hplace], hfail, ?_⟩
    intro other hother hprecedes
    obtain ⟨k, rfl⟩ := hphase other hother
    simp only [ImportStep.Precedes, hplace] at hprecedes
    exact hbefore k (by omega)

/-- A phase over the rows of networks. -/
theorem meetsIn_networks {phase : Nat} (step : Nat → Nat → ImportStep) {first : Option Failure}
    (hplace : ∀ j i, (step j i).place = (phase, j, i))
    (hphase : ∀ other : ImportStep, other.place.1 = phase → ∃ j i, other = step j i)
    (hfirst : FirstOfAll (fun j i => source.failureAt (step j i)) first) :
    source.MeetsIn phase first := by
  cases first with
  | none =>
    intro other hother
    obtain ⟨j, i, rfl⟩ := hphase other hother
    exact hfirst j i
  | some failure =>
    obtain ⟨j, i, hfail, hsame, hbefore⟩ := hfirst
    refine ⟨step j i, by rw [hplace], hfail, ?_⟩
    intro other hother hprecedes
    obtain ⟨k, l, rfl⟩ := hphase other hother
    simp only [ImportStep.Precedes, hplace] at hprecedes
    by_cases hk : k < j
    · exact hbefore k hk l
    · obtain rfl : k = j := by omega
      exact hsame l (by omega)

theorem Clear.sectionRefusals_eq_nil {phases : Nat} (h : source.Clear phases)
    (hphases : 3 < phases) : sectionRefusals source.rows.nodes source.rows.sections = [] := by
  have hfirst := firstOf_sectionRefusals source.rows
  exact List.head?_eq_none_iff.mp (hfirst.eq_none fun i => h (.roadSection i) hphases)

theorem Clear.stopRefusals_eq_nil {phases : Nat} (h : source.Clear phases) (hphases : 5 < phases)
    (linking : StationLinking) :
    source.rows.networks.flatMap (stopRefusals linking source.rows.roads.sectionIndex) = [] := by
  have hfirst := firstOfAll_stopRefusals linking (h.sectionRefusals_eq_nil (by omega))
  exact List.head?_eq_none_iff.mp (hfirst.eq_none fun j i => h (.stop j i) hphases)

/-- The failure of an import is that of the first step that fails. -/
theorem meets_importNetwork (source : RowSource) (linking : StationLinking) :
    source.Meets 7 (errorOf (importNetwork source ⟨.fail, linking⟩).outcome) := by
  have askNodes : source.MeetsIn 0 (errorOf source.nodes) :=
    meetsIn_step .askNodes fun other h => by cases other <;> first | rfl | cases h
  have nodes : source.MeetsIn 1 (nodeRefusals source.rows.nodes).head? := by
    refine meetsIn_rows .node (fun _ => rfl) (fun other h => ?_)
      (firstOf_nodeRefusals source.rows)
    cases other <;> cases h
    exact ⟨_, rfl⟩
  have askSections : source.MeetsIn 2 (errorOf source.sections) :=
    meetsIn_step .askSections fun other h => by cases other <;> first | rfl | cases h
  have sections :
      source.MeetsIn 3 (sectionRefusals source.rows.nodes source.rows.sections).head? := by
    refine meetsIn_rows .roadSection (fun _ => rfl) (fun other h => ?_)
      (firstOf_sectionRefusals source.rows)
    cases other <;> cases h
    exact ⟨_, rfl⟩
  have askNetworks : source.MeetsIn 4 (errorOf source.networks) :=
    meetsIn_step .askNetworks fun other h => by cases other <;> first | rfl | cases h
  -- stop rows are judged by all section rows, connection rows by all stop rows; none has failed
  have stops (clear : source.Clear 5) : source.MeetsIn 5 (source.rows.networks.flatMap
      (stopRefusals linking source.rows.roads.sectionIndex)).head? := by
    refine meetsIn_networks .stop (fun _ _ => rfl) (fun other h => ?_)
      (firstOfAll_stopRefusals linking (clear.sectionRefusals_eq_nil (by omega)))
    cases other <;> cases h
    exact ⟨_, _, rfl⟩
  have connections (clear : source.Clear 6) : source.MeetsIn 6 (source.rows.networks.flatMap
      (connectionRefusals linking source.rows.roads.sectionIndex)).head? := by
    refine meetsIn_networks .connection (fun _ _ => rfl) (fun other h => ?_)
      (firstOfAll_connectionRefusals linking (clear.sectionRefusals_eq_nil (by omega))
        (clear.stopRefusals_eq_nil (by omega) linking))
    cases other <;> cases h
    exact ⟨_, _, rfl⟩
  rw [errorOf_outcome_importNetwork, ← Option.none_or (o := errorOf source.nodes)]
  exact ((((((meets_zero.or fun _ => askNodes).or fun _ => nodes).or fun _ => askSections).or
    fun _ => sections).or fun _ => askNetworks).or stops).or connections

end RowSource

/-- Either no step fails and an import succeeds, or it ends with the failure of the first step that
fails. -/
theorem importNetwork_fail_cases (source : RowSource) (linking : StationLinking) :
    (∃ n, (importNetwork source ⟨.fail, linking⟩).outcome = .ok n ∧
        ∀ step, source.failureAt step = none) ∨
      ∃ step failure, (importNetwork source ⟨.fail, linking⟩).outcome = .error failure ∧
        source.FailsFirst step failure := by
  have h := RowSource.meets_importNetwork source linking
  cases houtcome : (importNetwork source ⟨.fail, linking⟩).outcome with
  | ok n =>
    rw [houtcome] at h
    exact .inl ⟨n, rfl, fun step => h step (by cases step <;> simp [ImportStep.place])⟩
  | error failure =>
    rw [houtcome] at h
    obtain ⟨step, hstep⟩ := h
    exact .inr ⟨step, failure, rfl, hstep⟩

/-! ## What a failure says -/

/-- Whether a failure is about the row of a kind with a number. That the row repeats an id is said
without its number. A reference that leads nowhere is one of the row's `references`, each given by
its field, the kind of records it leads to and the id, and the id is not registered. -/
def Failure.Explains (kind : RecordKind) (position : Nat)
    (references : List (String × RecordKind × RecordId))
    (registered : RecordKind → RecordId → Prop) : Failure → Prop
  | .duplicateId k _ => k = kind
  | .danglingReference k row _ field target missing =>
    k = kind ∧ row = position ∧ (field, target, missing) ∈ references ∧ ¬registered target missing
  | .malformedRecord k row _ => k = kind ∧ row = position
  | _ => False

def SectionRow.references (row : SectionRow) : List (String × RecordKind × RecordId) :=
  [("node_from", .roadNode, row.nodeFrom), ("node_to", .roadNode, row.nodeTo)]

def StopRow.references (row : StopRow) : List (String × RecordKind × RecordId) :=
  [("road_section_id", .roadSection, row.roadSection)]

def ConnectionRow.references (row : ConnectionRow) : List (String × RecordKind × RecordId) :=
  [("stop_from", .stop, row.stopFrom), ("stop_to", .stop, row.stopTo)]

section
variable {registered : RecordKind → RecordId → Prop} {failure : Failure} {position : Nat}
  {nodes sections stops : List RecordId}

theorem NodeRow.explains_firstFailure {row : NodeRow}
    (h : firstFailure (row.checks nodes) = some failure) :
    failure.Explains .roadNode position [] registered := by
  obtain ⟨check, hcheck, -, rfl⟩ := exists_of_firstFailure_eq_some h
  simp only [NodeRow.checks, List.mem_singleton] at hcheck
  subst hcheck
  rfl

theorem SectionRow.explains_firstFailure {row : SectionRow}
    (hnodes : ∀ id, registered .roadNode id → id ∈ nodes)
    (h : firstFailure (row.checks nodes sections position) = some failure) :
    failure.Explains .roadSection position row.references registered := by
  obtain ⟨check, hcheck, hpasses, rfl⟩ := exists_of_firstFailure_eq_some h
  simp only [SectionRow.checks, List.mem_cons, List.not_mem_nil, or_false] at hcheck
  obtain rfl | rfl | rfl | rfl | rfl := hcheck
  · have hmissing : row.nodeFrom ∉ nodes := by simpa using hpasses
    exact ⟨rfl, rfl, by simp [SectionRow.references], fun hid => hmissing (hnodes _ hid)⟩
  · have hmissing : row.nodeTo ∉ nodes := by simpa using hpasses
    exact ⟨rfl, rfl, by simp [SectionRow.references], fun hid => hmissing (hnodes _ hid)⟩
  · rfl
  · exact ⟨rfl, rfl⟩
  · exact ⟨rfl, rfl⟩

theorem StopRow.explains_firstFailure {row : StopRow}
    (hsections : ∀ id, registered .roadSection id → id ∈ sections)
    (h : firstFailure (row.checks sections stops position) = some failure) :
    failure.Explains .stop position row.references registered := by
  obtain ⟨check, hcheck, hpasses, rfl⟩ := exists_of_firstFailure_eq_some h
  simp only [StopRow.checks, List.mem_cons, List.not_mem_nil, or_false] at hcheck
  obtain rfl | rfl | rfl := hcheck
  · rfl
  · exact ⟨rfl, rfl⟩
  · have hmissing : row.roadSection ∉ sections := by simpa using hpasses
    exact ⟨rfl, rfl, by simp [StopRow.references], fun hid => hmissing (hsections _ hid)⟩

theorem ConnectionRow.explains_firstFailure {row : ConnectionRow}
    (hstops : ∀ id, registered .stop id → id ∈ stops)
    (h : firstFailure (row.checks stops position) = some failure) :
    failure.Explains .transitSection position row.references registered := by
  obtain ⟨check, hcheck, hpasses, rfl⟩ := exists_of_firstFailure_eq_some h
  simp only [ConnectionRow.checks, List.mem_cons, List.not_mem_nil, or_false] at hcheck
  obtain rfl | rfl := hcheck
  · have hmissing : row.stopFrom ∉ stops := by simpa using hpasses
    exact ⟨rfl, rfl, by simp [ConnectionRow.references], fun hid => hmissing (hstops _ hid)⟩
  · have hmissing : row.stopTo ∉ stops := by simpa using hpasses
    exact ⟨rfl, rfl, by simp [ConnectionRow.references], fun hid => hmissing (hstops _ hid)⟩

end

/-- Whether an id is registered for records of a kind, stops being those of one network. -/
def Network.Registers (n : Network) (network : Nat) : RecordKind → RecordId → Prop
  | .roadNode, id => n.nodeIndex.contains id = true
  | .roadSection, id => n.sectionIndex.contains id = true
  | .stop, id => ∃ t, n.transit[network]? = some t ∧ t.stopIndex.contains id = true
  | .transitSection, _ => False

namespace MemoryRows

variable {rows : MemoryRows} {linking : StationLinking} {id : RecordId}

/-- The references of the row that a step looks at. -/
def references (rows : MemoryRows) : ImportStep → List (String × RecordKind × RecordId)
  | .roadSection i => (rows.sections[i]?.map SectionRow.references).getD []
  | .stop j i => ((rows.networks[j]?.bind (·.stops[i]?)).map StopRow.references).getD []
  | .connection j i =>
    ((rows.networks[j]?.bind (·.connections[i]?)).map ConnectionRow.references).getD []
  | _ => []

/-- Only ids of node rows are registered for nodes. -/
theorem mem_nodes_of_registered (h : (rows.imported linking).nodeIndex.contains id = true) :
    id ∈ rows.nodes.map (·.id) :=
  mem_map_firsts.mp (((rows.holdsRoads_imported linking).nodeIndex.contains_iff id).mp h)

theorem mem_sections_of_registered
    (h : (rows.imported linking).sectionIndex.contains id = true) :
    id ∈ rows.sections.map (·.id) := by
  have hindex := (rows.holdsRoads_imported linking).sectionIndex
  have hvalid := mem_map_firsts.mp ((hindex.contains_iff id).mp h)
  exact List.map_subset _ (List.filter_subset_self _) hvalid

theorem mem_stops_of_registered {j : Nat} {t : TransitNetwork} {kept : TransitRows}
    (hkept : rows.networks[j]? = some kept) (ht : (rows.imported linking).transit[j]? = some t)
    (h : t.stopIndex.contains id = true) : id ∈ kept.stops.map (·.id) := by
  rw [transit_imported, hkept, Option.map_some, Option.some.injEq] at ht
  subst ht
  have hholds := holds_importedTransit rows.holdsRoads_roads.sectionIndex linking kept
  have hvalid := mem_map_firsts.mp ((hholds.stopIndex.contains_iff id).mp h)
  exact List.map_subset _ (List.filter_subset_self _) hvalid

/-- The failure of a row names the row, and a reference that leads nowhere leads to an id that the
rows before do not register. -/
theorem explains_failureAt {step : ImportStep} {failure : Failure} {kind : RecordKind}
    {position : Nat} (hrow : step.row? = some (kind, position))
    (h : rows.failureAt step = some failure) :
    failure.Explains kind position (rows.references step)
      (((rows.before step).imported linking).Registers step.network) := by
  cases step with
  | askNodes => cases hrow
  | askSections => cases hrow
  | askNetworks => cases hrow
  | node i =>
    cases hrow
    obtain ⟨row, -, hfail⟩ := Option.bind_eq_some_iff.mp h
    exact NodeRow.explains_firstFailure hfail
  | roadSection i =>
    cases hrow
    obtain ⟨row, hrow, hfail⟩ := Option.bind_eq_some_iff.mp h
    rw [references, hrow, Option.map_some, Option.getD_some]
    refine SectionRow.explains_firstFailure (fun id hid => ?_) hfail
    have hnodes : (rows.before (.roadSection position)).nodes = rows.nodes :=
      nodes_before fun k => ImportStep.node_precedes_roadSection k position
    exact hnodes ▸ mem_nodes_of_registered hid
  | stop j i =>
    cases hrow
    obtain ⟨t, ht, hfail⟩ := Option.bind_eq_some_iff.mp h
    obtain ⟨row, hrow, hfail⟩ := Option.bind_eq_some_iff.mp hfail
    rw [references, ht, Option.bind_some, hrow, Option.map_some, Option.getD_some]
    refine StopRow.explains_firstFailure (fun id hid => ?_) hfail
    have hsections : (rows.before (.stop j position)).sections = rows.sections :=
      sections_before fun k => ImportStep.roadSection_precedes_stop k j position
    exact hsections ▸ mem_sections_of_registered hid
  | connection j i =>
    cases hrow
    obtain ⟨t, ht, hfail⟩ := Option.bind_eq_some_iff.mp h
    obtain ⟨row, hrow, hfail⟩ := Option.bind_eq_some_iff.mp hfail
    rw [references, ht, Option.bind_some, hrow, Option.map_some, Option.getD_some]
    refine ConnectionRow.explains_firstFailure (fun id hid => ?_) hfail
    obtain ⟨network, hnetwork, hid⟩ := hid
    obtain ⟨kept, hkept, hstops⟩ := stops_before ht fun k =>
      ImportStep.stop_precedes_connection j k j position
    exact hstops ▸ mem_stops_of_registered hkept hnetwork hid

end MemoryRows

/-! ## The result -/

/-- Where no step before a step fails, the rows before it are imported without a failure. -/
theorem outcome_importNetwork_before {rows : MemoryRows} (linking : StationLinking)
    {step : ImportStep}
    (h : ∀ other : ImportStep, other.Precedes step → rows.failureAt other = none) :
    (importNetwork (rows.before step).source ⟨.fail, linking⟩).outcome =
      .ok ((rows.before step).imported linking) := by
  obtain ⟨n, hn, -⟩ | ⟨other, failure, -, hfirst⟩ :=
    importNetwork_fail_cases (rows.before step).source linking
  · rw [hn, eq_imported_of_outcome_eq_ok _ linking hn]
  · have hfail : (rows.before step).failureAt other = some failure := by
      cases other <;> exact hfirst.fails
    obtain ⟨hbefore, hrows⟩ := MemoryRows.failureAt_before hfail
    cases hrows.symm.trans (h other hbefore)

theorem outcome_importNetwork_eq_error_iff (source : RowSource) (linking : StationLinking)
    (failure : Failure) :
    (importNetwork source ⟨.fail, linking⟩).outcome = .error failure ↔
      ∃ step, source.FailsFirst step failure := by
  obtain ⟨n, hn, hnone⟩ | ⟨step, first, hfirst, hstep⟩ := importNetwork_fail_cases source linking
  · simp only [hn, reduceCtorEq, false_iff]
    rintro ⟨step, hstep⟩
    cases hstep.fails.symm.trans (hnone step)
  · rw [hfirst, Except.error.injEq]
    constructor
    · rintro rfl
      exact ⟨step, hstep⟩
    · rintro ⟨other, hother⟩
      exact (hstep.unique hother).2

/-- An import fails exactly if a step fails, and with the failure of the first step that does. The
failure of a row names the row, and a reference that leads nowhere leads to an id that is not
registered once the rows before the row are imported. -/
theorem importNetwork_reports_first_failure (source : RowSource) (linking : StationLinking) :
    ((∃ failure, (importNetwork source ⟨.fail, linking⟩).outcome = .error failure) ↔
        ∃ step failure, source.failureAt step = some failure) ∧
      (∀ failure, (importNetwork source ⟨.fail, linking⟩).outcome = .error failure ↔
        ∃ step, source.FailsFirst step failure) ∧
      ∀ step failure kind position, source.FailsFirst step failure →
        step.row? = some (kind, position) →
          ∃ n, (importNetwork (source.rows.before step).source ⟨.fail, linking⟩).outcome = .ok n ∧
            failure.Explains kind position (source.rows.references step)
              (n.Registers step.network) := by
  refine ⟨?_, outcome_importNetwork_eq_error_iff source linking, ?_⟩
  · constructor
    · rintro ⟨failure, hfailure⟩
      obtain ⟨step, hstep⟩ :=
        (outcome_importNetwork_eq_error_iff source linking failure).mp hfailure
      exact ⟨step, failure, hstep.fails⟩
    · rintro ⟨step, failure, hfail⟩
      obtain ⟨n, -, hnone⟩ | ⟨-, first, hfirst, -⟩ := importNetwork_fail_cases source linking
      · cases hfail.symm.trans (hnone step)
      · exact ⟨first, hfirst⟩
  · intro step failure kind position hstep hrow
    have hfail := hstep.fails
    rw [RowSource.failureAt_of_row hrow] at hfail
    have hbefore := outcome_importNetwork_before linking fun other hother =>
      RowSource.rows_failureAt_eq_none (hstep.first other hother)
    exact ⟨_, hbefore, MemoryRows.explains_failureAt hrow hfail⟩

/-- A source without public transport networks whose second section leads to an unknown node. -/
def deadEnd : RowSource where
  nodes := .ok [{ id := 1 }, { id := 2 }]
  sections := .ok [{ id := 7, nodeFrom := 1, nodeTo := 2 }, { id := 7, nodeFrom := 1, nodeTo := 9 }]
  networks := .error (.sourceUnavailable .stop (.described "no networks"))

/-- The missing node counts, not the repeated id and not the missing stream. -/
def deadEndFailure : Failure :=
  .danglingReference .roadSection 1 (some 7) "node_to" .roadNode 9

theorem failsFirst_deadEnd : deadEnd.FailsFirst (.roadSection 1) deadEndFailure where
  fails := by decide +kernel
  first := by
    intro other h
    cases other with
    | askNodes => rfl
    | askSections => rfl
    | node i => rcases i with _ | _ | i <;> rfl
    | roadSection i =>
      obtain rfl : i = 0 := by simpa [ImportStep.Precedes, ImportStep.place] using h
      decide +kernel
    | _ => simp [ImportStep.Precedes, ImportStep.place] at h

theorem importNetwork_reports_first_failure_deadEnd :
    (importNetwork deadEnd ⟨.fail, .twoPass⟩).outcome = .error deadEndFailure ∧
      ∃ n, (importNetwork (deadEnd.rows.before (.roadSection 1)).source ⟨.fail, .twoPass⟩).outcome =
          .ok n ∧
        deadEndFailure.Explains .roadSection 1
          [("node_from", .roadNode, 1), ("node_to", .roadNode, 9)] (n.Registers 0) := by
  obtain ⟨-, hfirst, hexplains⟩ := importNetwork_reports_first_failure deadEnd .twoPass
  exact ⟨(hfirst deadEndFailure).mpr ⟨_, failsFirst_deadEnd⟩,
    hexplains _ _ _ _ failsFirst_deadEnd rfl⟩

end Multimodal
