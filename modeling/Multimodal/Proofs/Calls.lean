import Multimodal.Proofs.Announcements

/-!
# The progress of a pass

A pass announces progress at each row that it deals with: skipping, at all of them, and otherwise at
those before the first refusal (`progress_pass`). Passes over networks count on from one network to
the next (`progress_importAllStops`, `progress_importAllConnections`).
-/
namespace Multimodal

/-! ## Calls -/

theorem hearsSkips_progress? : HearsSkips Event.progress? := fun _ _ => rfl

theorem Event.progress?_row {kind : RecordKind} {position total : Nat} (h : total ≠ 0) :
    (Event.row kind position total).progress? =
      some (progressFraction kind position total, false) :=
  if_neg h

/-- The calls at the rows of a kind with the given numbers. The fractions may be of any kind. -/
def callsAt {K : Type} (fraction : RecordKind → Nat → Nat → K) (kind : RecordKind) (total : Nat)
    (positions : List Nat) : List (K × Bool) :=
  positions.map fun position => (fraction kind position total, false)

theorem callsAt_append {K : Type} (fraction : RecordKind → Nat → Nat → K) (kind : RecordKind)
    (total : Nat) (positions more : List Nat) :
    callsAt fraction kind total (positions ++ more) =
      callsAt fraction kind total positions ++ callsAt fraction kind total more :=
  List.map_append

/-! ## One pass -/

section
variable {ρ σ : Type}

namespace Acceptance

/-- The number of rows before the first that is refused. -/
def untilRefusal (accept : Acceptance ρ σ) : Nat → List ρ → σ → Nat
  | _, [], _ => 0
  | position, row :: rest, state =>
    match accept position row state with
    | .ok (next, _) => untilRefusal accept (position + 1) rest next + 1
    | .error _ => 0

theorem untilRefusal_of_refusals_eq_nil {accept : Acceptance ρ σ} {position : Nat} {rows : List ρ}
    {state : σ} (h : accept.refusals position rows state = []) :
    accept.untilRefusal position rows state = rows.length := by
  induction rows generalizing position state with
  | nil => rfl
  | cons row rest ih =>
    cases hrow : accept position row state with
    | ok result =>
      simp only [refusals, hrow] at h
      simp only [untilRefusal, hrow, ih h, List.length_cons]
    | error failure => simp [refusals, hrow] at h

/-- If the check first fails at a row, the rows before it are accepted and it is refused. -/
theorem Follows.untilRefusal_eq {accept : Acceptance ρ σ}
    {check : List ρ → Nat → ρ → Option Failure} {Holds : List ρ → σ → Prop}
    (follows : accept.Follows check Holds) (kept : List ρ) (state : σ) (h : Holds kept state)
    {rows : List ρ} {i : Nat} {failure : Failure}
    (hfail : rows[i]?.bind (check (kept ++ rows.take i) (kept.length + i)) = some failure)
    (hbefore : ∀ k < i, rows[k]?.bind (check (kept ++ rows.take k) (kept.length + k)) = none) :
    accept.untilRefusal kept.length rows state = i := by
  induction rows generalizing kept state i with
  | nil => simp at hfail
  | cons row rest ih =>
    cases i with
    | zero =>
      have hrow : check kept kept.length row = some failure := by simpa using hfail
      simp only [untilRefusal, follows.refuses h hrow]
    | succ i =>
      have hrow : check kept kept.length row = none := by simpa using hbefore 0 (by omega)
      obtain ⟨next, notes, admitted, hnext⟩ := follows.accepts h hrow
      have hrest := ih (kept ++ [row]) next hnext (i := i)
        (by simpa [Nat.add_assoc, Nat.add_comm 1] using hfail)
        (by
          intro k hk
          simpa [Nat.add_assoc, Nat.add_comm 1] using hbefore (k + 1) (by omega))
      simp only [List.length_append, List.length_singleton] at hrest
      simp only [untilRefusal, admitted, hrest]

end Acceptance

namespace RowPolicy

/-- The number of rows that a pass deals with. -/
def dealt (policy : RowPolicy) (accept : Acceptance ρ σ) (position : Nat) (rows : List ρ)
    (state : σ) : Nat :=
  match policy with
  | .skip => rows.length
  | .fail => accept.untilRefusal position rows state

theorem dealt_of_passes {policy : RowPolicy} {accept : Acceptance ρ σ} {position : Nat}
    {rows : List ρ} {state : σ} (h : policy.Passes (accept.refusals position rows state)) :
    policy.dealt accept position rows state = rows.length := by
  cases policy with
  | skip => rfl
  | fail => exact Acceptance.untilRefusal_of_refusals_eq_nil (h.resolve_left (by simp))

theorem dealt_of_ok {policy : RowPolicy} {accept : Acceptance ρ σ} {position : Nat} {row : ρ}
    {rest : List ρ} {state next : σ} {notes : List Note}
    (h : accept position row state = .ok (next, notes)) :
    policy.dealt accept position (row :: rest) state =
      policy.dealt accept (position + 1) rest next + 1 := by
  cases policy with
  | skip => rfl
  | fail => simp only [dealt, Acceptance.untilRefusal, h]

end RowPolicy

/-- A pass announces the rows that it deals with. -/
theorem progress_pass (policy : RowPolicy) (kind : RecordKind) (done position : Nat) {total : Nat}
    (accept : Acceptance ρ σ) {rows : List ρ} (hrows : rows.length ≤ total) (state : σ) :
    (pass policy kind (fun i => .row kind (done + i) total) accept position rows state).progress =
      callsAt progressFraction kind total
        (List.range' (done + position) (policy.dealt accept position rows state)) := by
  induction rows generalizing position state with
  | nil => cases policy <;> rfl
  | cons row rest ih =>
    rw [List.length_cons] at hrows
    have htick : (Event.row kind (done + position) total).progress? =
        some (progressFraction kind (done + position) total, false) :=
      Event.progress?_row (by omega)
    rw [Report.progress_eq_heard, pass]
    cases h : accept position row state with
    | ok result =>
      obtain ⟨next, notes⟩ := result
      have hnotes : (notes.map Event.note).filterMap Event.progress? = [] := by
        simp [List.filterMap_map, Event.progress?]
      have hrest := ih (position + 1) (by omega) next
      rw [Report.progress_eq_heard] at hrest
      rw [RowPolicy.dealt_of_ok h, List.range'_succ]
      simp only [Report.heard_announce_bind, hrest, List.filterMap_append, hnotes,
        List.filterMap_cons, htick]
      rfl
    | error failure =>
      cases policy with
      | fail => simp [RowPolicy.dealt, Acceptance.untilRefusal, h, callsAt]
      | skip =>
        have hrest := ih (position + 1) (by omega) state
        rw [Report.progress_eq_heard] at hrest
        simp only [Report.heard_announce_bind, Report.heard_bind_pure, hrest, List.filterMap_cons,
          htick]
        rfl

end

/-! ## Passes over networks -/

section
variable {β γ : Type} (policy : RowPolicy) (refusals : β → List Failure) (size dealt : β → Nat)

/-- The number of rows that passes over networks deal with. -/
def RowPolicy.dealtIn : List β → Nat
  | [] => 0
  | item :: rest => if policy.Passes (refusals item) then size item + dealtIn rest else dealt item

variable {policy refusals size dealt}

theorem dealtIn_of_passes {items : List β} (h : policy.Passes (items.flatMap refusals)) :
    policy.dealtIn refusals size dealt items = totalOf size items := by
  induction items with
  | nil => rfl
  | cons item rest ih =>
    simp only [RowPolicy.Passes, List.flatMap_cons, List.append_eq_nil_iff] at h
    have hitem : policy.Passes (refusals item) := h.imp_right (·.1)
    rw [RowPolicy.dealtIn, if_pos hitem, ih (h.imp_right (·.2))]
    rfl

/-- All rows of the networks before the first with a refusal are dealt with. -/
theorem dealtIn_of_first {items : List β} {j : Nat} {item : β} (hitem : items[j]? = some item)
    (hbefore : ∀ k < j, ∀ other, items[k]? = some other → refusals other = [])
    (hrefused : ¬policy.Passes (refusals item)) :
    policy.dealtIn refusals size dealt items = totalOf size (items.take j) + dealt item := by
  induction items generalizing j with
  | nil => simp at hitem
  | cons first rest ih =>
    cases j with
    | zero =>
      obtain rfl : first = item := by simpa using hitem
      rw [RowPolicy.dealtIn, if_neg hrefused, List.take_zero]
      exact (Nat.zero_add _).symm
    | succ j =>
      have hfirst : refusals first = [] := hbefore 0 (by omega) first rfl
      have hrest := ih (by simpa using hitem) fun k hk => hbefore (k + 1) (by omega)
      rw [RowPolicy.dealtIn, if_pos (.inr hfirst), hrest, List.take_succ_cons, ← Nat.add_assoc]
      rfl

/-- Passes over networks announce the rows that they deal with, counted through. -/
theorem InTurn.progress {kind : RecordKind} {total : Nat} {one : Nat → β → Report γ}
    {all : Nat → List β → Report (List γ)} (inTurn : InTurn size one all)
    (hprogress : ∀ done item, size item ≤ total → (one done item).progress =
      callsAt progressFraction kind total (List.range' done (dealt item)))
    (hpasses : ∀ item, policy.Passes (refusals item) → dealt item = size item)
    (hok : ∀ done item, errorOf (one done item).outcome = none ↔ policy.Passes (refusals item))
    (done : Nat) {items : List β} (hitems : totalOf size items ≤ total) :
    (all done items).progress = callsAt progressFraction kind total
      (List.range' done (policy.dealtIn refusals size dealt items)) := by
  induction items generalizing done with
  | nil => exact inTurn.heard_nil done
  | cons item rest ih =>
    rw [totalOf, List.foldr_cons, ← totalOf] at hitems
    have hitem := hprogress done item (by omega)
    have hrest := ih (done + size item) (by omega)
    rw [Report.progress_eq_heard] at hitem hrest ⊢
    rw [RowPolicy.dealtIn]
    have hok := hok done item
    cases houtcome : (one done item).outcome with
    | error failure =>
      rw [houtcome] at hok
      rw [inTurn.heard_cons_of_error houtcome, hitem, if_neg (by simp [← hok])]
    | ok first =>
      rw [houtcome] at hok
      have hpass := hok.mp rfl
      rw [inTurn.heard_cons_of_ok houtcome, hitem, hrest, if_pos hpass, ← callsAt_append,
        hpasses item hpass, List.range'_append_1]

end

/-! ## The phases of an import -/

section
variable (policy : RowPolicy)

def dealtNodes (nodes : List NodeRow) : Nat :=
  policy.dealt Network.offerNode 0 nodes Network.empty

def dealtSections (nodes : List NodeRow) (sections : List SectionRow) : Nat :=
  policy.dealt Network.offerSection 0 sections (importedNodes nodes)

variable (linking : StationLinking) (index : IdIndex)

def dealtStops (rows : TransitRows) : Nat :=
  policy.dealt (StopIntake.offer linking index) 0 rows.stops (emptyIntake rows)

def dealtConnections (rows : TransitRows) : Nat :=
  policy.dealt TransitNetwork.offerConnection 0 rows.connections
    (settledStops linking index rows).network

end

theorem progress_importNodes (policy : RowPolicy) (nodes : List NodeRow) :
    (importNodes policy nodes Network.empty).progress =
      callsAt progressFraction .roadNode nodes.length (List.range (dealtNodes policy nodes)) := by
  have h := progress_pass policy .roadNode 0 0 Network.offerNode nodes.length.le_refl Network.empty
  simp only [Nat.zero_add, ← List.range_eq_range'] at h
  exact h

theorem progress_importSections (policy : RowPolicy) (nodes : List NodeRow)
    (sections : List SectionRow) :
    (importSections policy sections (importedNodes nodes)).progress =
      callsAt progressFraction .roadSection sections.length
        (List.range (dealtSections policy nodes sections)) := by
  have h := progress_pass policy .roadSection 0 0 Network.offerSection sections.length.le_refl
    (importedNodes nodes)
  simp only [Nat.zero_add, ← List.range_eq_range'] at h
  exact h

theorem progress_importStops (options : ImportOptions) (index : IdIndex) (done : Nat) {total : Nat}
    {rows : TransitRows} (hrows : rows.stops.length ≤ total) :
    (importStops options index done total rows).progress = callsAt progressFraction .stop total
      (List.range' done (dealtStops options.onRowError options.stationLinking index rows)) := by
  have hpass := progress_pass options.onRowError .stop done 0
    (StopIntake.offer options.stationLinking index) hrows (emptyIntake rows)
  rw [importStops, Report.progress_eq_heard, Report.heard_bind_of_quiet]
  · exact hpass
  · intro result
    refine (Report.heard_bind_pure (Report.log result.1.settle.2) _).trans ?_
    rw [Report.log, Report.heard_announce, List.filterMap_map]
    exact List.filterMap_eq_nil_iff.mpr fun _ _ => rfl

theorem progress_importAllStops (options : ImportOptions) (index : IdIndex)
    (networks : List TransitRows) :
    (importAllStops options index (totalOf (·.stops.length) networks) 0 networks).progress =
      callsAt progressFraction .stop (totalOf (·.stops.length) networks)
        (List.range (options.onRowError.dealtIn (stopRefusals options.stationLinking index)
          (·.stops.length) (dealtStops options.onRowError options.stationLinking index)
          networks)) := by
  rw [List.range_eq_range']
  refine (inTurn_importAllStops options index _).progress
    (fun done rows => progress_importStops options index done)
    (fun rows => RowPolicy.dealt_of_passes) ?_ 0 (Nat.le_refl _)
  intro done rows
  rw [outcome_importStops, RowPolicy.errorOf_settle_eq_none_iff]
  rfl

theorem progress_importAllConnections (policy : RowPolicy) (linking : StationLinking)
    (index : IdIndex) (networks : List TransitRows) :
    (importAllConnections policy (totalOf (·.connections.length) networks) 0
        (networks.map (stopYield linking index))).progress =
      callsAt progressFraction .transitSection (totalOf (·.connections.length) networks)
        (List.range (policy.dealtIn (connectionRefusals linking index) (·.connections.length)
          (dealtConnections policy linking index) networks)) := by
  rw [List.range_eq_range']
  refine (inTurn_importAllConnections policy linking index _).progress ?_
    (fun rows => RowPolicy.dealt_of_passes) ?_ 0 (Nat.le_refl _)
  · intro done rows hrows
    exact progress_pass policy .transitSection done 0 TransitNetwork.offerConnection hrows
      (settledStops linking index rows).network
  · intro done rows
    rw [outcome_importConnections, RowPolicy.errorOf_settle_eq_none_iff]
    rfl

/-! ## The rows before the first that fails -/

section
variable {rows : MemoryRows} {failure : Failure} {i : Nat}

theorem dealtNodes_of_first (hfail : rows.failureAt (.node i) = some failure)
    (hbefore : ∀ k < i, rows.failureAt (.node k) = none) : dealtNodes .fail rows.nodes = i :=
  Network.follows_offerNode.untilRefusal_eq [] Network.empty Network.holdsRoads_empty
    (by simpa [MemoryRows.failureAt] using hfail)
    (by simpa [MemoryRows.failureAt] using hbefore)

theorem dealtSections_of_first (hfail : rows.failureAt (.roadSection i) = some failure)
    (hbefore : ∀ k < i, rows.failureAt (.roadSection k) = none) :
    dealtSections .fail rows.nodes rows.sections = i :=
  (Network.follows_offerSection (firsts (·.id) rows.nodes)).untilRefusal_eq []
    (importedNodes rows.nodes) (holdsRoads_importedNodes rows.nodes)
    (by simpa [MemoryRows.failureAt, SectionRow.checks, mem_map_firsts] using hfail)
    (by simpa [MemoryRows.failureAt, SectionRow.checks, mem_map_firsts] using hbefore)

variable {linking : StationLinking} {j : Nat} {t : TransitRows}
  (hsections : sectionRefusals rows.nodes rows.sections = [])
include hsections

theorem dealtStops_of_first (ht : rows.networks[j]? = some t)
    (hfail : rows.failureAt (.stop j i) = some failure)
    (hbefore : ∀ k < i, rows.failureAt (.stop j k) = none) :
    dealtStops .fail linking rows.roads.sectionIndex t = i :=
  (StopIntake.follows_offer linking (lists_sectionIndex hsections) t.networkId
      t.name).untilRefusal_eq [] (emptyIntake t) (TransitNetwork.holds_empty _ _ _)
    (by simpa [MemoryRows.failureAt, ht] using hfail)
    (by simpa [MemoryRows.failureAt, ht] using hbefore)

theorem dealtConnections_of_first (ht : rows.networks[j]? = some t)
    (hstops : stopRefusals linking rows.roads.sectionIndex t = [])
    (hfail : rows.failureAt (.connection j i) = some failure)
    (hbefore : ∀ k < i, rows.failureAt (.connection j k) = none) :
    dealtConnections .fail linking rows.roads.sectionIndex t = i :=
  have hholds := holds_settledStops_of_stopRefusals_eq_nil linking hsections hstops
  (TransitNetwork.follows_offerConnection _ ⟨t.networkId, t.name, t.stops, []⟩).untilRefusal_eq []
    _ hholds (by simpa [MemoryRows.failureAt, ht] using hfail)
    (by simpa [MemoryRows.failureAt, ht] using hbefore)

end

end Multimodal
