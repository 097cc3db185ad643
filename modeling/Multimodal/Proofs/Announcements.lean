import Multimodal.Proofs.Endings

/-!
# What an import announces

A listener hears some of the events of a report (`Report.heard`). What is heard of an import is what
is heard of its phases one after another, up to the first that fails (`heard_importNetwork`): every
phase works on the rows that the phases before it would make of all their rows, whether or not the
policy lets the import come so far.
-/
namespace Multimodal

variable {α β γ : Type}

/-! ## Listening to a report -/

namespace Report

def heard (f : Event → Option γ) (r : Report α) : List γ := r.events.filterMap f

theorem progress_eq_heard (r : Report α) : r.progress = r.heard Event.progress? := rfl

/-- What is heard of a phase, and the failure that ends it. -/
def phase (f : Event → Option γ) (r : Report α) : List γ × Option Failure :=
  (r.heard f, errorOf r.outcome)

variable {f : Event → Option γ}

@[simp] theorem heard_pure (a : α) : (pure a : Report α).heard f = [] := rfl

@[simp] theorem heard_ofExcept (outcome : Except Failure α) : (ofExcept outcome).heard f = [] := rfl

@[simp] theorem heard_fail (failure : Failure) : (fail failure : Report α).heard f = [] := rfl

@[simp] theorem heard_announce (events : List Event) :
    (announce events).heard f = events.filterMap f := rfl

theorem heard_bind_of_ok {r : Report α} {a : α} (h : r.outcome = .ok a) (next : α → Report β) :
    (r >>= next).heard f = r.heard f ++ (next a).heard f := by
  rw [bind_of_ok h, heard, List.filterMap_append]
  rfl

theorem heard_bind_of_error {r : Report α} {failure : Failure} (h : r.outcome = .error failure)
    (next : α → Report β) : (r >>= next).heard f = r.heard f := by
  rw [bind_of_error h]
  rfl

@[simp] theorem heard_announce_bind (events : List Event) (next : Unit → Report β) :
    (announce events >>= next).heard f = events.filterMap f ++ (next ()).heard f :=
  heard_bind_of_ok rfl next

theorem heard_bind_of_quiet {r : Report α} {next : α → Report β}
    (h : ∀ a, (next a).heard f = []) : (r >>= next).heard f = r.heard f := by
  cases houtcome : r.outcome with
  | ok a => rw [heard_bind_of_ok houtcome, h, List.append_nil]
  | error failure => exact heard_bind_of_error houtcome _

theorem heard_bind_pure (r : Report α) (g : α → β) :
    (r >>= fun a => pure (g a)).heard f = r.heard f :=
  heard_bind_of_quiet fun _ => rfl

end Report

namespace InTurn

variable {size : β → Nat} {one : Nat → β → Report γ} {all : Nat → List β → Report (List γ)}
  {δ : Type} {f : Event → Option δ} (inTurn : InTurn size one all)
include inTurn

theorem heard_nil (done : Nat) : (all done []).heard f = [] := by
  rw [inTurn.nil]
  rfl

theorem heard_cons_of_ok {done : Nat} {item : β} {first : γ}
    (h : (one done item).outcome = .ok first) (rest : List β) :
    (all done (item :: rest)).heard f =
      (one done item).heard f ++ (all (done + size item) rest).heard f := by
  rw [inTurn.cons, Report.heard_bind_of_ok h, Report.heard_bind_pure]

theorem heard_cons_of_error {done : Nat} {item : β} {failure : Failure}
    (h : (one done item).outcome = .error failure) (rest : List β) :
    (all done (item :: rest)).heard f = (one done item).heard f := by
  rw [inTurn.cons, Report.heard_bind_of_error h]

end InTurn

/-- What is heard of phases, one after another, up to the first that fails. -/
def untilFailure : List (List γ × Option Failure) → List γ
  | [] => []
  | (heard, none) :: rest => heard ++ untilFailure rest
  | (heard, some _) :: _ => heard

/-- If no phase fails, all are heard. -/
theorem untilFailure_of_clear {phases : List (List γ × Option Failure)} {expected : List (List γ)}
    (hheard : ∀ l : Nat, phases[l]?.map (·.1) = expected[l]?)
    (hclear : ∀ l : Nat, phases[l]?.bind (·.2) = none) :
    untilFailure phases = expected.flatten := by
  induction phases generalizing expected with
  | nil =>
    have hnil : expected = [] := List.ext_getElem? fun l => (hheard l).symm
    rw [hnil]
    rfl
  | cons phase phases ih =>
    obtain ⟨x, outcome⟩ := phase
    cases expected with
    | nil => simpa using hheard 0
    | cons first expected =>
      obtain rfl : x = first := by simpa using hheard 0
      obtain rfl : outcome = none := by simpa using hclear 0
      rw [untilFailure, List.flatten_cons, @ih expected (fun l => by simpa using hheard (l + 1))
        (fun l => by simpa using hclear (l + 1))]

/-- If the phase with number `k` is the first to fail, it is the last that is heard. -/
theorem untilFailure_of_first {phases : List (List γ × Option Failure)} {expected : List (List γ)}
    {k : Nat} (hheard : ∀ l ≤ k, phases[l]?.map (·.1) = expected[l]?)
    (hclear : ∀ l < k, phases[l]?.bind (·.2) = none) (hfails : phases[k]?.bind (·.2) ≠ none)
    (hsilent : ∀ l, k < l → ∀ x, expected[l]? = some x → x = []) :
    untilFailure phases = expected.flatten := by
  induction phases generalizing expected k with
  | nil => simp at hfails
  | cons phase phases ih =>
    obtain ⟨x, outcome⟩ := phase
    cases expected with
    | nil => simpa using hheard 0 (by omega)
    | cons first expected =>
      obtain rfl : x = first := by simpa using hheard 0 (by omega)
      rw [List.flatten_cons]
      cases k with
      | zero =>
        obtain ⟨failure, rfl⟩ : ∃ failure, outcome = some failure := by
          simpa [Option.ne_none_iff_exists'] using hfails
        have hrest : expected.flatten = [] := by
          rw [List.flatten_eq_nil_iff]
          intro y hy
          obtain ⟨l, hl⟩ := List.mem_iff_getElem?.mp hy
          exact hsilent (l + 1) (by omega) y (by simpa using hl)
        rw [untilFailure, hrest, List.append_nil]
      | succ k =>
        obtain rfl : outcome = none := by simpa using hclear 0 (by omega)
        rw [untilFailure, @ih expected k (fun l hl => by simpa using hheard (l + 1) (by omega))
          (fun l hl => by simpa using hclear (l + 1) (by omega)) (by simpa using hfails)
          (fun l hl y hy => hsilent (l + 1) (by omega) y (by simpa using hy))]

/-! ## Listening to an import -/

/-- Of the notes, a listener hears at most that rows are skipped. -/
def HearsSkips (f : Event → Option γ) : Prop :=
  ∀ line, (∀ kind cause, line ≠ .rowSkipped kind cause) → f (.note line) = none

section
variable {f : Event → Option γ} (hf : HearsSkips f)
include hf

theorem heard_log_bind {lines : List Note}
    (h : ∀ line ∈ lines, ∀ kind cause, line ≠ .rowSkipped kind cause)
    (next : Unit → Report β) : (Report.log lines >>= next).heard f = (next ()).heard f := by
  have hnone : lines.filterMap (f ∘ Event.note) = [] :=
    List.filterMap_eq_nil_iff.mpr fun line hline => hf line (h line hline)
  rw [Report.log, Report.heard_announce_bind, List.filterMap_map, hnone, List.nil_append]

end

namespace RowSource

def phases (source : RowSource) (options : ImportOptions) (f : Event → Option γ) :
    List (List γ × Option Failure) :=
  let rows := source.rows
  let policy := options.onRowError
  let index := rows.roads.sectionIndex
  [ (Report.ofExcept source.nodes).phase f,
    (importNodes policy rows.nodes Network.empty).phase f,
    (Report.ofExcept source.sections).phase f,
    (importSections policy rows.sections (importedNodes rows.nodes)).phase f,
    (Report.ofExcept source.networks).phase f,
    (importAllStops options index (totalOf (·.stops.length) rows.networks) 0 rows.networks).phase f,
    (importAllConnections policy (totalOf (·.connections.length) rows.networks) 0
      (rows.networks.map (stopYield options.stationLinking index))).phase f,
    (Report.announce [.finished]).phase f ]

end RowSource

theorem untilFailure_phase_of_some {f : Event → Option γ} {r : Report α} {failure : Failure}
    (h : errorOf r.outcome = some failure) (rest : List (List γ × Option Failure)) :
    untilFailure (r.phase f :: rest) = r.heard f := by
  rw [Report.phase, h]
  rfl

theorem untilFailure_phase_of_none {f : Event → Option γ} {r : Report α}
    (h : errorOf r.outcome = none) (rest : List (List γ × Option Failure)) :
    untilFailure (r.phase f :: rest) = r.heard f ++ untilFailure rest := by
  rw [Report.phase, h]
  rfl

/-- What is heard of a phase and what follows on it. -/
theorem heard_bind_eq_untilFailure {f : Event → Option γ} {r : Report α} {next : α → Report β}
    {rest : List (List γ × Option Failure)}
    (h : ∀ a, r.outcome = .ok a → (next a).heard f = untilFailure rest) :
    (r >>= next).heard f = untilFailure (r.phase f :: rest) := by
  cases houtcome : r.outcome with
  | error failure =>
    have hends : errorOf r.outcome = some failure := congrArg errorOf houtcome
    rw [Report.heard_bind_of_error houtcome, untilFailure_phase_of_some hends]
  | ok a =>
    have hclear : errorOf r.outcome = none := congrArg errorOf houtcome
    rw [Report.heard_bind_of_ok houtcome, untilFailure_phase_of_none hclear, h a houtcome]

/-- What is heard of an import is what is heard of its phases, up to the first that fails. -/
theorem heard_importNetwork {f : Event → Option γ} (hf : HearsSkips f) (source : RowSource)
    (options : ImportOptions) :
    (importNetwork source options).heard f = untilFailure (source.phases options f) := by
  unfold importNetwork RowSource.phases
  apply heard_bind_eq_untilFailure
  intro nodes hnodes
  obtain rfl : source.rows.nodes = nodes := by
    rw [RowSource.rows, show source.nodes = .ok nodes from hnodes]
    rfl
  rw [heard_log_bind hf (by simp)]
  apply heard_bind_eq_untilFailure
  intro roadNodes hroadNodes
  rw [outcome_importNodes] at hroadNodes
  obtain rfl := eq_of_settle_eq_ok hroadNodes
  apply heard_bind_eq_untilFailure
  intro sections hsections
  obtain rfl : source.rows.sections = sections := by
    rw [RowSource.rows, show source.sections = .ok sections from hsections]
    rfl
  rw [heard_log_bind hf (by simp)]
  apply heard_bind_eq_untilFailure
  intro roads hroads
  rw [outcome_importSections] at hroads
  obtain rfl := eq_of_settle_eq_ok hroads
  apply heard_bind_eq_untilFailure
  intro networks hnetworks
  obtain rfl : source.rows.networks = networks := by
    rw [RowSource.rows, show source.networks = .ok networks from hnetworks]
    rfl
  rw [heard_log_bind hf (by simp)]
  apply heard_bind_eq_untilFailure
  intro yields hyields
  rw [outcome_importAllStops] at hyields
  obtain rfl := eq_of_settle_eq_ok hyields
  rw [heard_log_bind hf (by simp)]
  apply heard_bind_eq_untilFailure
  intro transit htransit
  apply heard_bind_eq_untilFailure
  intro _ _
  split
  · rw [heard_log_bind hf (by simp), heard_log_bind hf (by simp)]
    rfl
  · rw [heard_log_bind hf (by simp)]
    rfl

/-! ## The phases that fail -/

namespace RowSource

variable {source : RowSource} {options : ImportOptions} {step : ImportStep} {failure : Failure}
  {f : Event → Option γ}

/-- A phase without a step that ends the import does not fail. -/
theorem ClearTo.phase_eq_none {k : Nat} (h : source.ClearTo options.onRowError k) (hk : k ≤ 7)
    {l : Nat} (hl : l < k) : (source.phases options f)[l]?.bind (·.2) = none := by
  match l, hl with
  | 0, hl => exact h.askNodes hl
  | 1, hl =>
    refine Eq.trans (congrArg errorOf (outcome_importNodes _ _)) ?_
    exact (RowPolicy.errorOf_settle_eq_none_iff ..).mpr (h.nodes hl)
  | 2, hl => exact h.askSections hl
  | 3, hl =>
    refine Eq.trans (congrArg errorOf (outcome_importSections _ _ _)) ?_
    exact (RowPolicy.errorOf_settle_eq_none_iff ..).mpr (h.sections hl)
  | 4, hl => exact h.askNetworks hl
  | 5, hl =>
    refine Eq.trans (congrArg errorOf (outcome_importAllStops _ _ _ _ _)) ?_
    exact (RowPolicy.errorOf_settle_eq_none_iff ..).mpr (h.stops hl _)
  | 6, hl =>
    refine Eq.trans (congrArg errorOf (outcome_importAllConnections _ _ _ _ _ _)) ?_
    exact (RowPolicy.errorOf_settle_eq_none_iff ..).mpr (h.connections hl _)
  | n + 7, hl => omega

/-- The phase of the step that ends an import fails. -/
theorem EndsAt.phase_ne_none (h : source.EndsAt options.onRowError step failure) :
    (source.phases options f)[step.place.1]?.bind (·.2) ≠ none := by
  have hasked (hrow : step.row? = none) : source.failureAt step ≠ none := by
    have hbreaks := h.breaks
    cases hpolicy : options.onRowError <;> simp_all [breakAt]
  cases step with
  | askNodes => exact hasked rfl
  | askSections => exact hasked rfl
  | askNetworks => exact hasked rfl
  | node i =>
    obtain ⟨hpolicy, hfirst⟩ := h.failsFirst rfl
    refine ne_of_eq_of_ne (congrArg errorOf (outcome_importNodes _ _)) ?_
    exact RowPolicy.errorOf_settle_ne_none hpolicy ((firstOf_nodeRefusals _).ne_none hfirst.fails)
  | roadSection i =>
    obtain ⟨hpolicy, hfirst⟩ := h.failsFirst rfl
    refine ne_of_eq_of_ne (congrArg errorOf (outcome_importSections _ _ _)) ?_
    exact RowPolicy.errorOf_settle_ne_none hpolicy
      ((firstOf_sectionRefusals _).ne_none hfirst.fails)
  | stop j i =>
    obtain ⟨hpolicy, hfirst⟩ := h.failsFirst rfl
    have hclear : source.Clear 5 := (hpolicy ▸ h.clearTo : source.ClearTo .fail 5)
    refine ne_of_eq_of_ne (congrArg errorOf (outcome_importAllStops _ _ _ _ _)) ?_
    exact RowPolicy.errorOf_settle_ne_none hpolicy ((firstOfAll_stopRefusals _
      (hclear.sectionRefusals_eq_nil (by omega))).ne_none hfirst.fails)
  | connection j i =>
    obtain ⟨hpolicy, hfirst⟩ := h.failsFirst rfl
    have hclear : source.Clear 6 := (hpolicy ▸ h.clearTo : source.ClearTo .fail 6)
    refine ne_of_eq_of_ne (congrArg errorOf (outcome_importAllConnections _ _ _ _ _ _)) ?_
    exact RowPolicy.errorOf_settle_ne_none hpolicy ((firstOfAll_connectionRefusals _
      (hclear.sectionRefusals_eq_nil (by omega))
      (hclear.stopRefusals_eq_nil (by omega) _)).ne_none hfirst.fails)

theorem ClearTo.all_phases_eq_none (h : source.ClearTo options.onRowError 7) (l : Nat) :
    (source.phases options f)[l]?.bind (·.2) = none := by
  match l with
  | 0 | 1 | 2 | 3 | 4 | 5 | 6 => exact h.phase_eq_none (Nat.le_refl 7) (by omega)
  | 7 => rfl
  | n + 8 => rfl

end RowSource

end Multimodal
