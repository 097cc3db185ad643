import Multimodal.Proofs.Log

/-!
# No warnings under a policy that fails

A policy that fails ends an import at the first row that it refuses and warns of nothing, neither
before nor in the end. A report is calm if none of its lines is a warning (`Report.Calm`), and that
of an import is calm as those of its phases are, whichever of them fails.
-/
namespace Multimodal

variable {α β γ ρ σ : Type}

namespace Report

def Calm (r : Report α) : Prop := ∀ line ∈ r.notes, line.level ≠ .warn

theorem Calm.bind {r : Report α} {next : α → Report β} (h : r.Calm)
    (hnext : ∀ a, r.outcome = .ok a → (next a).Calm) : (r >>= next).Calm := by
  cases houtcome : r.outcome with
  | error failure =>
    rw [Calm, notes_eq_heard, heard_bind_of_error houtcome]
    exact h
  | ok a =>
    rw [Calm, notes_bind houtcome]
    exact List.forall_mem_append.mpr ⟨h, hnext a houtcome⟩

theorem calm_ofExcept (outcome : Except Failure α) : (ofExcept outcome).Calm := by
  simp [Calm, notes, ofExcept]

theorem calm_pure (a : α) : (pure a : Report α).Calm := by
  simp [Calm, notes]

theorem calm_log {lines : List Note} (h : ∀ line ∈ lines, line.level ≠ .warn) :
    (log lines).Calm := by
  rwa [Calm, notes_log]

end Report

open Report

theorem calm_pass {accept : Acceptance ρ σ} {level : Verbosity} (hnotes : accept.NotesAt level)
    (hlevel : level ≠ .warn) (kind : RecordKind) (tick : Nat → Event)
    (htick : ∀ i, (tick i).note? = none) (position : Nat) (rows : List ρ) (state : σ) :
    (pass .fail kind tick accept position rows state).Calm := by
  induction rows generalizing position state with
  | nil => exact calm_pure _
  | cons row rest ih =>
    rw [pass]
    cases h : accept position row state with
    | error failure => simp [Calm, notes, fail]
    | ok result =>
      refine Calm.bind ?_ fun _ _ => ih _ _
      have hlines : (announce (result.2.map .note ++ [tick position])).notes = result.2 := by
        simp only [notes, announce, List.filterMap_append, filterMap_note, List.filterMap_cons,
          htick, List.filterMap_nil, List.append_nil]
      rw [Calm, hlines]
      exact fun line hline => hnotes _ _ _ _ _ h line hline ▸ hlevel

/-! ## The phases -/

theorem calm_importNodes (nodes : List NodeRow) (n : Network) : (importNodes .fail nodes n).Calm :=
  calm_pass notesAt_offerNode (by decide) _ _ (fun _ => rfl) 0 nodes n

theorem calm_importSections (sections : List SectionRow) (n : Network) :
    (importSections .fail sections n).Calm :=
  calm_pass notesAt_offerSection (by decide) _ _ (fun _ => rfl) 0 sections n

theorem calm_importStops (linking : StationLinking) (index : IdIndex) (done total : Nat)
    (rows : TransitRows) : (importStops ⟨.fail, linking⟩ index done total rows).Calm := by
  have hpass := calm_pass (StopIntake.notesAt_offer linking index) (by decide) .stop
    (fun position => .row .stop (done + position) total) (fun _ => rfl) 0 rows.stops
    (emptyIntake rows)
  refine Calm.bind hpass fun result _ => ?_
  refine Calm.bind (calm_log fun line hline => ?_) fun _ _ => calm_pure _
  rw [result.1.notesAt_settle line hline]
  decide

theorem InTurn.calm {size : β → Nat} {one : Nat → β → Report γ}
    {all : Nat → List β → Report (List γ)} (inTurn : InTurn size one all)
    (hone : ∀ done item, (one done item).Calm) (done : Nat) (items : List β) :
    (all done items).Calm := by
  induction items generalizing done with
  | nil => exact inTurn.nil done ▸ calm_pure _
  | cons item rest ih =>
    rw [inTurn.cons]
    exact (hone done item).bind fun _ _ => (ih _).bind fun _ _ => calm_pure _

theorem calm_importAllStops (linking : StationLinking) (index : IdIndex) (total : Nat)
    (networks : List TransitRows) :
    (importAllStops ⟨.fail, linking⟩ index total 0 networks).Calm :=
  (inTurn_importAllStops ⟨.fail, linking⟩ index total).calm
    (fun done rows => calm_importStops linking index done total rows) 0 networks

theorem calm_importAllConnections (linking : StationLinking) (index : IdIndex) (total : Nat)
    (networks : List TransitRows) :
    (importAllConnections .fail total 0 (networks.map (stopYield linking index))).Calm :=
  (inTurn_importAllConnections .fail linking index total).calm
    (fun _ rows => calm_pass notesAt_offerConnection (by decide) _ _ (fun _ => rfl) 0
      rows.connections (settledStops linking index rows).network) 0 networks

theorem calm_closing (n : Network) (h : n.stats.totalSkipped = 0) :
    (do
      Report.announce [.finished]
      if 0 < n.stats.totalSkipped then Report.log [.rowsSkipped n.stats.totalSkipped]
      Report.log [.imported n.summary]
      return n : Report Network).Calm := by
  rw [Calm, notes_closing, closingNotes, h]
  simp [Note.level]

/-- An import under a policy that fails warns of nothing, whether or not it succeeds. -/
theorem calm_importNetwork (source : RowSource) (linking : StationLinking) :
    (importNetwork source ⟨.fail, linking⟩).Calm := by
  unfold importNetwork
  refine (calm_ofExcept _).bind fun nodes _ => ?_
  refine (calm_log (by simp [Note.level])).bind fun _ _ => ?_
  refine (calm_importNodes nodes _).bind fun roadNodes hnodes => ?_
  rw [outcome_importNodes, settle_fail_eq_ok_iff] at hnodes
  obtain ⟨hnodes, rfl⟩ := hnodes
  refine (calm_ofExcept _).bind fun sections _ => ?_
  refine (calm_log (by simp [Note.level])).bind fun _ _ => ?_
  refine (calm_importSections sections _).bind fun roads hsections => ?_
  rw [outcome_importSections, settle_fail_eq_ok_iff] at hsections
  obtain ⟨hsections, rfl⟩ := hsections
  refine (calm_ofExcept _).bind fun networks _ => ?_
  refine (calm_log (by simp [Note.level])).bind fun _ _ => ?_
  refine (calm_importAllStops linking _ _ networks).bind fun yields hstops => ?_
  rw [outcome_importAllStops, settle_fail_eq_ok_iff] at hstops
  obtain ⟨hstops, rfl⟩ := hstops
  refine (calm_log (by simp [Note.level])).bind fun _ _ => ?_
  refine (calm_importAllConnections linking _ _ networks).bind fun transit hconnections => ?_
  rw [outcome_importAllConnections, settle_fail_eq_ok_iff] at hconnections
  obtain ⟨hconnections, rfl⟩ := hconnections
  -- no phase refused a row, so nothing was skipped
  let rows : MemoryRows := ⟨nodes, sections, networks⟩
  have hnone : rows.refusals linking = [] :=
    List.append_eq_nil_iff.mpr ⟨List.append_eq_nil_iff.mpr ⟨hnodes, hsections⟩,
      List.append_eq_nil_iff.mpr ⟨hstops, hconnections⟩⟩
  have hskipped : (rows.account linking).totalSkipped = 0 := by
    rw [rows.totalSkipped_account linking, hnone, List.length_nil]
  have hclosing := calm_closing (rows.imported linking) hskipped
  simp only [totalOf_map, stopYield, totalOf_length, List.map_map, Function.comp_def]
  exact hclosing

end Multimodal
