import Mathlib.Tactic.FieldSimp
import Mathlib.Tactic.Linarith
import Multimodal.Proofs.Calls

/-!
# The progress of an import

An import calls for each row that it deals with and once more when it is done. The fraction of a
call says how many rows of its phase came before. It is rounded, so fractions are compared as the
rational numbers that the same formula gives.

* `RowSource.ClearTo.progress_eq`, `RowSource.EndsAt.progress_eq`: the calls of an import that
  succeeds and of one that ends at a step.
* `exactFraction_eq`, `MemoryRows.pairwise_calls`: what the formula comes to, and that it grows.
* `importNetwork_progress`: the whole protocol.
-/
namespace Multimodal

/-! ## Rows by kind -/

/-- The kinds of rows in the order of their phases. -/
def RecordKind.inOrder : List RecordKind := [.roadNode, .roadSection, .stop, .transitSection]

/-- The place of the steps that look at rows of a kind. -/
def RecordKind.stage : RecordKind → Nat
  | .roadNode => 1
  | .roadSection => 3
  | .stop => 5
  | .transitSection => 6

namespace MemoryRows

def count (rows : MemoryRows) : RecordKind → Nat
  | .roadNode => rows.nodes.length
  | .roadSection => rows.sections.length
  | .stop => totalOf (·.stops.length) rows.networks
  | .transitSection => totalOf (·.connections.length) rows.networks

def size (rows : MemoryRows) : Nat := totalOf rows.count RecordKind.inOrder

section
variable {K : Type} (rows seen : MemoryRows) (fraction : RecordKind → Nat → Nat → K)

/-- The calls of an import of `rows` at the rows of a kind that are in `seen`, its first rows. The
rows of a kind are counted through all networks. -/
def callsOf (kind : RecordKind) : List (K × Bool) :=
  callsAt fraction kind (rows.count kind) (List.range (seen.count kind))

/-- The calls of an import of `rows` at the rows that are in `seen`, phase by phase. -/
def calls : List (K × Bool) := RecordKind.inOrder.flatMap (rows.callsOf seen fraction)

end

end MemoryRows

/-! ## The rows before a step, counted -/

section
variable {ρ : Type} {p : Nat → Bool}

theorem reached_eq_nil (h : p 0 = false) (xs : List ρ) : reached p xs = [] := by
  cases xs <;> simp [reached, h]

theorem length_reached {i : Nat} (h : ∀ k, p k = decide (k < i)) (xs : List ρ) :
    (reached p xs).length = min i xs.length := by
  induction xs generalizing p i with
  | nil => simp [reached]
  | cons x rest ih =>
    cases i with
    | zero => simp [reached, h]
    | succ i =>
      have hrest := @ih (fun k => p (k + 1)) i (by simp [h])
      rw [reached, if_pos (by simp [h]), List.length_cons, hrest, List.length_cons]
      omega

end

section
variable {ρ : Type} (field : TransitRows → List ρ)

/-- The number of rows of networks up to the first, in each network, that does not satisfy `p`. -/
def reachedIn : (Nat → Nat → Bool) → List TransitRows → Nat
  | _, [] => 0
  | p, t :: rest => (reached (p 0) (field t)).length + reachedIn (fun j => p (j + 1)) rest

variable {p : Nat → Nat → Bool}

theorem totalOf_mapIdx {f : Nat → TransitRows → TransitRows}
    (h : ∀ j t, field (f j t) = reached (p j) (field t)) (networks : List TransitRows) :
    totalOf (fun t => (field t).length) (networks.mapIdx f) = reachedIn field p networks := by
  induction networks generalizing f p with
  | nil => rfl
  | cons t rest ih =>
    have hrest := @ih (fun j => p (j + 1)) (fun j => f (j + 1)) fun j => h (j + 1)
    simp only [List.mapIdx_cons, totalOf, List.foldr_cons, h] at hrest ⊢
    rw [hrest, reachedIn]

theorem reachedIn_all (h : ∀ j i, p j i = true) (networks : List TransitRows) :
    reachedIn field p networks = totalOf (fun t => (field t).length) networks := by
  induction networks generalizing p with
  | nil => rfl
  | cons t rest ih =>
    rw [reachedIn, reached_eq_self (h 0), ih fun j => h (j + 1)]
    rfl

theorem reachedIn_none (h : ∀ j, p j 0 = false) (networks : List TransitRows) :
    reachedIn field p networks = 0 := by
  induction networks generalizing p with
  | nil => rfl
  | cons t rest ih => rw [reachedIn, reached_eq_nil (h 0), ih fun j => h (j + 1), List.length_nil]

/-- Before row `i` of network `j` are the rows of the networks before and `i` rows of its own. -/
theorem reachedIn_at {i j : Nat} (h : ∀ k l, p k l = decide (k < j ∨ k = j ∧ l < i))
    {networks : List TransitRows} {t : TransitRows} (ht : networks[j]? = some t)
    (hi : i < (field t).length) :
    reachedIn field p networks = totalOf (fun t => (field t).length) (networks.take j) + i := by
  induction networks generalizing j p with
  | nil => simp at ht
  | cons first rest ih =>
    cases j with
    | zero =>
      obtain rfl : first = t := by simpa using ht
      have hfirst := length_reached (p := p 0) (i := i) (by simp [h]) (field first)
      rw [reachedIn, hfirst, reachedIn_none field (by simp [h]), Nat.min_eq_left hi.le]
      simp [totalOf]
    | succ j =>
      rw [reachedIn, reached_eq_self (by simp [h]), ih (j := j) (by simp [h]) (by simpa using ht),
        List.take_succ_cons, ← Nat.add_assoc]
      rfl

end

namespace MemoryRows

variable {rows : MemoryRows} {step : ImportStep}

theorem count_before_stop :
    (rows.before step).count .stop =
      reachedIn (·.stops) (fun j i => (ImportStep.stop j i).Precedes step) rows.networks :=
  totalOf_mapIdx (·.stops) (fun _ _ => rfl) rows.networks

theorem count_before_connection :
    (rows.before step).count .transitSection =
      reachedIn (·.connections) (fun j i => (ImportStep.connection j i).Precedes step)
        rows.networks :=
  totalOf_mapIdx (·.connections) (fun _ _ => rfl) rows.networks

/-- All rows of the phases before a step come before it. -/
theorem count_before_of_stage_lt {kind : RecordKind} (h : kind.stage < step.place.1) :
    (rows.before step).count kind = rows.count kind := by
  cases kind with
  | roadNode => exact congrArg List.length (nodes_before fun _ => .inl h)
  | roadSection => exact congrArg List.length (sections_before fun _ => .inl h)
  | stop =>
    rw [count_before_stop]
    exact reachedIn_all _ (fun _ _ => decide_eq_true (.inl h)) rows.networks
  | transitSection =>
    rw [count_before_connection]
    exact reachedIn_all _ (fun _ _ => decide_eq_true (.inl h)) rows.networks

/-- No rows of the phases after a step come before it. -/
theorem count_before_of_lt_stage {kind : RecordKind} (h : step.place.1 < kind.stage) :
    (rows.before step).count kind = 0 := by
  have hlater {other : ImportStep} (hother : other.place.1 = kind.stage) :
      decide (other.Precedes step) = false := by
    rw [decide_eq_false_iff_not]
    unfold ImportStep.Precedes
    omega
  cases kind with
  | roadNode => exact congrArg List.length (reached_eq_nil (hlater rfl) rows.nodes)
  | roadSection => exact congrArg List.length (reached_eq_nil (hlater rfl) rows.sections)
  | stop =>
    rw [count_before_stop]
    exact reachedIn_none _ (fun _ => hlater rfl) rows.networks
  | transitSection =>
    rw [count_before_connection]
    exact reachedIn_none _ (fun _ => hlater rfl) rows.networks

theorem count_before_node {i : Nat} (h : i < rows.nodes.length) :
    (rows.before (.node i)).count .roadNode = i := by
  have hlength := length_reached (p := fun k => decide ((ImportStep.node k).Precedes (.node i)))
    (i := i) (by simp [ImportStep.Precedes, ImportStep.place]) rows.nodes
  exact hlength.trans (Nat.min_eq_left h.le)

theorem count_before_roadSection {i : Nat} (h : i < rows.sections.length) :
    (rows.before (.roadSection i)).count .roadSection = i := by
  have hlength := length_reached
    (p := fun k => decide ((ImportStep.roadSection k).Precedes (.roadSection i)))
    (i := i) (by simp [ImportStep.Precedes, ImportStep.place]) rows.sections
  exact hlength.trans (Nat.min_eq_left h.le)

theorem count_before_stop_self {j i : Nat} {t : TransitRows} (ht : rows.networks[j]? = some t)
    (hi : i < t.stops.length) :
    (rows.before (.stop j i)).count .stop =
      totalOf (·.stops.length) (rows.networks.take j) + i := by
  rw [count_before_stop]
  exact reachedIn_at _ (by simp [ImportStep.Precedes, ImportStep.place]) ht hi

theorem count_before_connection_self {j i : Nat} {t : TransitRows}
    (ht : rows.networks[j]? = some t) (hi : i < t.connections.length) :
    (rows.before (.connection j i)).count .transitSection =
      totalOf (·.connections.length) (rows.networks.take j) + i := by
  rw [count_before_connection]
  exact reachedIn_at _ (by simp [ImportStep.Precedes, ImportStep.place]) ht hi

end MemoryRows

/-! ## How many rows an import deals with -/

namespace RowSource

variable {source : RowSource} {policy : RowPolicy} {step : ImportStep} {failure : Failure}

theorem EndsAt.dealtNodes_eq (h : source.EndsAt policy step failure)
    (hplace : RecordKind.roadNode.stage ≤ step.place.1) :
    dealtNodes policy source.rows.nodes = (source.rows.before step).count .roadNode := by
  obtain hlt | heq := hplace.lt_or_eq
  · rw [MemoryRows.count_before_of_stage_lt hlt]
    exact RowPolicy.dealt_of_passes (h.clearTo.nodes hlt)
  · obtain ⟨i, rfl⟩ : ∃ i, step = .node i := by
      cases step <;> first | exact ⟨_, rfl⟩ | cases heq
    obtain ⟨rfl, hfirst⟩ := h.failsFirst rfl
    obtain ⟨row, hrow, -⟩ := Option.bind_eq_some_iff.mp hfirst.fails
    rw [MemoryRows.count_before_node (List.getElem?_eq_some_iff.mp hrow).1]
    exact dealtNodes_of_first hfirst.fails fun k hk =>
      hfirst.first (.node k) (.inr ⟨rfl, .inr ⟨rfl, hk⟩⟩)

theorem EndsAt.dealtSections_eq (h : source.EndsAt policy step failure)
    (hplace : RecordKind.roadSection.stage ≤ step.place.1) :
    dealtSections policy source.rows.nodes source.rows.sections =
      (source.rows.before step).count .roadSection := by
  obtain hlt | heq := hplace.lt_or_eq
  · rw [MemoryRows.count_before_of_stage_lt hlt]
    exact RowPolicy.dealt_of_passes (h.clearTo.sections hlt)
  · obtain ⟨i, rfl⟩ : ∃ i, step = .roadSection i := by
      cases step <;> first | exact ⟨_, rfl⟩ | cases heq
    obtain ⟨rfl, hfirst⟩ := h.failsFirst rfl
    obtain ⟨row, hrow, -⟩ := Option.bind_eq_some_iff.mp hfirst.fails
    rw [MemoryRows.count_before_roadSection (List.getElem?_eq_some_iff.mp hrow).1]
    exact dealtSections_of_first hfirst.fails fun k hk =>
      hfirst.first (.roadSection k) (.inr ⟨rfl, .inr ⟨rfl, hk⟩⟩)

theorem EndsAt.dealtStops_eq (h : source.EndsAt policy step failure)
    (hplace : RecordKind.stop.stage ≤ step.place.1) (linking : StationLinking) :
    policy.dealtIn (stopRefusals linking source.rows.roads.sectionIndex) (·.stops.length)
        (dealtStops policy linking source.rows.roads.sectionIndex) source.rows.networks =
      (source.rows.before step).count .stop := by
  obtain hlt | heq := hplace.lt_or_eq
  · rw [MemoryRows.count_before_of_stage_lt hlt]
    exact dealtIn_of_passes (h.clearTo.stops hlt linking)
  · obtain ⟨j, i, rfl⟩ : ∃ j i, step = .stop j i := by
      cases step <;> first | exact ⟨_, _, rfl⟩ | cases heq
    obtain ⟨rfl, hfirst⟩ := h.failsFirst rfl
    have hsections := Clear.sectionRefusals_eq_nil h.clearTo (by simp [ImportStep.place])
    obtain ⟨t, ht, hfails⟩ := Option.bind_eq_some_iff.mp hfirst.fails
    obtain ⟨row, hrow, -⟩ := Option.bind_eq_some_iff.mp hfails
    have hrefused := (firstOf_stopRefusals linking hsections ht).ne_none hfirst.fails
    have hbefore : ∀ k < j, ∀ other, source.rows.networks[k]? = some other →
        stopRefusals linking source.rows.roads.sectionIndex other = [] := by
      intro k hk other hother
      have hnone := (firstOf_stopRefusals linking hsections hother).eq_none fun l =>
        hfirst.first (.stop k l) (.inr ⟨rfl, .inl hk⟩)
      exact List.head?_eq_none_iff.mp hnone
    rw [MemoryRows.count_before_stop_self ht (List.getElem?_eq_some_iff.mp hrow).1,
      dealtIn_of_first ht hbefore (RowPolicy.not_passes_fail hrefused),
      dealtStops_of_first hsections ht hfirst.fails fun k hk =>
        hfirst.first (.stop j k) (.inr ⟨rfl, .inr ⟨rfl, hk⟩⟩)]

theorem EndsAt.dealtConnections_eq (h : source.EndsAt policy step failure)
    (hplace : RecordKind.transitSection.stage ≤ step.place.1) (linking : StationLinking) :
    policy.dealtIn (connectionRefusals linking source.rows.roads.sectionIndex)
        (·.connections.length) (dealtConnections policy linking source.rows.roads.sectionIndex)
        source.rows.networks =
      (source.rows.before step).count .transitSection := by
  obtain hlt | heq := hplace.lt_or_eq
  · rw [MemoryRows.count_before_of_stage_lt hlt]
    exact dealtIn_of_passes (h.clearTo.connections hlt linking)
  · obtain ⟨j, i, rfl⟩ : ∃ j i, step = .connection j i := by
      cases step <;> first | exact ⟨_, _, rfl⟩ | cases heq
    obtain ⟨rfl, hfirst⟩ := h.failsFirst rfl
    have hsections := Clear.sectionRefusals_eq_nil h.clearTo (by simp [ImportStep.place])
    have hstops := Clear.stopRefusals_eq_nil h.clearTo (by simp [ImportStep.place]) linking
    have hstopsOf {k : Nat} {other : TransitRows} (hother : source.rows.networks[k]? = some other) :
        stopRefusals linking source.rows.roads.sectionIndex other = [] :=
      List.flatMap_eq_nil_iff.mp hstops other (List.mem_of_getElem? hother)
    obtain ⟨t, ht, hfails⟩ := Option.bind_eq_some_iff.mp hfirst.fails
    obtain ⟨row, hrow, -⟩ := Option.bind_eq_some_iff.mp hfails
    have hrefused :=
      (firstOf_connectionRefusals linking hsections ht (hstopsOf ht)).ne_none hfirst.fails
    have hbefore : ∀ k < j, ∀ other, source.rows.networks[k]? = some other →
        connectionRefusals linking source.rows.roads.sectionIndex other = [] := by
      intro k hk other hother
      have hnone := (firstOf_connectionRefusals linking hsections hother
        (hstopsOf hother)).eq_none fun l => hfirst.first (.connection k l) (.inr ⟨rfl, .inl hk⟩)
      exact List.head?_eq_none_iff.mp hnone
    rw [MemoryRows.count_before_connection_self ht (List.getElem?_eq_some_iff.mp hrow).1,
      dealtIn_of_first ht hbefore (RowPolicy.not_passes_fail hrefused),
      dealtConnections_of_first hsections ht (hstopsOf ht) hfirst.fails fun k hk =>
        hfirst.first (.connection j k) (.inr ⟨rfl, .inr ⟨rfl, hk⟩⟩)]

end RowSource

/-! ## The calls of an import -/

/-- The calls of the phases of an import; asking for a stream makes none. -/
def MemoryRows.callsByPhase {K : Type} (rows seen : MemoryRows)
    (fraction : RecordKind → Nat → Nat → K) : List (List (K × Bool)) :=
  [ [], rows.callsOf seen fraction .roadNode, [], rows.callsOf seen fraction .roadSection,
    [], rows.callsOf seen fraction .stop, rows.callsOf seen fraction .transitSection ]

theorem MemoryRows.flatten_callsByPhase {K : Type} (rows seen : MemoryRows)
    (fraction : RecordKind → Nat → Nat → K) :
    (rows.callsByPhase seen fraction).flatten = rows.calls seen fraction := by
  simp [callsByPhase, calls, RecordKind.inOrder]

namespace RowSource

variable {source : RowSource} {options : ImportOptions} {step : ImportStep} {failure : Failure}

/-- In the phases up to a number an import deals with the rows that are in `seen`. -/
structure DealsWith (source : RowSource) (options : ImportOptions) (seen : MemoryRows)
    (last : Nat) : Prop where
  nodes : 1 ≤ last →
    dealtNodes options.onRowError source.rows.nodes = seen.count .roadNode
  sections : 3 ≤ last →
    dealtSections options.onRowError source.rows.nodes source.rows.sections =
      seen.count .roadSection
  stops : 5 ≤ last →
    options.onRowError.dealtIn (stopRefusals options.stationLinking source.rows.roads.sectionIndex)
        (·.stops.length)
        (dealtStops options.onRowError options.stationLinking source.rows.roads.sectionIndex)
        source.rows.networks = seen.count .stop
  connections : 6 ≤ last →
    options.onRowError.dealtIn
        (connectionRefusals options.stationLinking source.rows.roads.sectionIndex)
        (·.connections.length)
        (dealtConnections options.onRowError options.stationLinking
          source.rows.roads.sectionIndex)
        source.rows.networks = seen.count .transitSection

theorem EndsAt.dealsWith (h : source.EndsAt options.onRowError step failure) :
    source.DealsWith options (source.rows.before step) step.place.1 :=
  ⟨h.dealtNodes_eq, h.dealtSections_eq, fun hplace => h.dealtStops_eq hplace _,
    fun hplace => h.dealtConnections_eq hplace _⟩

/-- An import without a step that ends it deals with all rows. -/
theorem ClearTo.dealsWith (h : source.ClearTo options.onRowError 7) (last : Nat) :
    source.DealsWith options source.rows last where
  nodes _ := RowPolicy.dealt_of_passes (h.nodes (by omega))
  sections _ := RowPolicy.dealt_of_passes (h.sections (by omega))
  stops _ := dealtIn_of_passes (h.stops (by omega) _)
  connections _ := dealtIn_of_passes (h.connections (by omega) _)

/-- The calls of a phase are those at the rows that it deals with. -/
theorem DealsWith.phase_heard {seen : MemoryRows} {last : Nat}
    (h : source.DealsWith options seen last) {l : Nat} (hl : l ≤ last) (hphase : l < 7) :
    (source.phases options Event.progress?)[l]?.map (·.1) =
      (source.rows.callsByPhase seen progressFraction)[l]? := by
  match l, hl with
  | 0, _ => rfl
  | 1, hl =>
    refine congrArg some ((progress_importNodes _ _).trans ?_)
    rw [h.nodes hl]
    rfl
  | 2, _ => rfl
  | 3, hl =>
    refine congrArg some ((progress_importSections _ _ _).trans ?_)
    rw [h.sections hl]
    rfl
  | 4, _ => rfl
  | 5, hl =>
    refine congrArg some ((progress_importAllStops _ _ _).trans ?_)
    rw [h.stops hl]
    rfl
  | 6, hl =>
    refine congrArg some ((progress_importAllConnections _ _ _ _).trans ?_)
    rw [h.connections hl]
    rfl
  | n + 7, _ => omega

/-- After the step that ends an import nothing is called. -/
theorem callsByPhase_before {rows : MemoryRows} {K : Type} {fraction : RecordKind → Nat → Nat → K}
    {l : Nat} (hl : step.place.1 < l) {x : List (K × Bool)}
    (hx : (rows.callsByPhase (rows.before step) fraction)[l]? = some x) : x = [] := by
  have hsilent (kind : RecordKind) (hkind : step.place.1 < kind.stage) :
      rows.callsOf (rows.before step) fraction kind = [] := by
    rw [MemoryRows.callsOf, MemoryRows.count_before_of_lt_stage hkind]
    rfl
  match l, hl with
  | 0, _ | 2, _ | 4, _ => exact (Option.some.inj hx).symm
  | 1, hl => exact (Option.some.inj hx).symm.trans (hsilent .roadNode hl)
  | 3, hl => exact (Option.some.inj hx).symm.trans (hsilent .roadSection hl)
  | 5, hl => exact (Option.some.inj hx).symm.trans (hsilent .stop hl)
  | 6, hl => exact (Option.some.inj hx).symm.trans (hsilent .transitSection hl)
  | n + 7, hl => simp [MemoryRows.callsByPhase] at hx

/-- An import that ends at a step makes the calls of the rows before it. -/
theorem EndsAt.progress_eq (h : source.EndsAt options.onRowError step failure) :
    (importNetwork source options).progress =
      source.rows.calls (source.rows.before step) progressFraction := by
  have hlast : step.place.1 < 7 := by cases step <;> simp [ImportStep.place]
  rw [Report.progress_eq_heard, heard_importNetwork hearsSkips_progress?,
    untilFailure_of_first (fun l hl => h.dealsWith.phase_heard hl (by omega))
      (fun l hl => h.clearTo.phase_eq_none hlast.le hl) h.phase_ne_none
      (fun l hl x hx => callsByPhase_before hl hx),
    MemoryRows.flatten_callsByPhase]

/-- An import without a step that ends it makes the calls of all rows, and then a last one. -/
theorem ClearTo.progress_eq (h : source.ClearTo options.onRowError 7) :
    (importNetwork source options).progress =
      source.rows.calls source.rows progressFraction ++ [(1.0, true)] := by
  have hheard (l : Nat) : (source.phases options Event.progress?)[l]?.map (·.1) =
      (source.rows.callsByPhase source.rows progressFraction ++ [[(1.0, true)]])[l]? := by
    match l with
    | 0 | 1 | 2 | 3 | 4 | 5 | 6 => exact (h.dealsWith 6).phase_heard (by omega) (by omega)
    | 7 => rfl
    | n + 8 => rfl
  rw [Report.progress_eq_heard, heard_importNetwork hearsSkips_progress?,
    untilFailure_of_clear hheard h.all_phases_eq_none, List.flatten_append,
    MemoryRows.flatten_callsByPhase]
  rfl

end RowSource

/-! ## Fractions -/

/-- How far an import has come at a row, before rounding. -/
def exactFraction (kind : RecordKind) (position total : Nat) : ℚ :=
  slotFraction Nat.cast phaseCount kind.phase position total

section
variable {kind : RecordKind} {i k total : Nat}

theorem exactFraction_eq (kind : RecordKind) (position total : Nat) :
    exactFraction kind position total = (kind.phase : ℚ) / 4 + (position : ℚ) / (4 * total) := by
  simp only [exactFraction, slotFraction, phaseCount, Nat.cast_one, Nat.cast_ofNat]
  rw [div_mul_eq_mul_div, one_mul, div_mul_div_comm, one_mul]

/-- The rows of a phase stay in its quarter. -/
theorem exactFraction_mem_quarter (h : i < total) :
    (kind.phase : ℚ) / 4 ≤ exactFraction kind i total ∧
      exactFraction kind i total < (kind.phase + 1 : ℚ) / 4 := by
  have htotal : (0 : ℚ) < total := by exact_mod_cast Nat.zero_lt_of_lt h
  have hi : (i : ℚ) < total := by exact_mod_cast h
  have hnonneg : (0 : ℚ) ≤ i / (4 * total) := div_nonneg (Nat.cast_nonneg i) (by linarith)
  have hless : (i : ℚ) / (4 * total) < 1 / 4 := by
    rw [div_lt_div_iff₀ (by linarith) (by norm_num)]
    linarith
  rw [exactFraction_eq]
  constructor <;> linarith

theorem exactFraction_lt (h : i < k) (hk : k ≤ total) :
    exactFraction kind i total < exactFraction kind k total := by
  have htotal : (0 : ℚ) < total := by exact_mod_cast Nat.zero_lt_of_lt (h.trans_le hk)
  have hi : (i : ℚ) < k := by exact_mod_cast h
  rw [exactFraction_eq, exactFraction_eq]
  gcongr

end

namespace MemoryRows

variable {rows seen : MemoryRows} {kind : RecordKind} {K : Type}
  {fraction : RecordKind → Nat → Nat → K}

theorem mem_callsOf_iff {call : K × Bool} : call ∈ rows.callsOf seen fraction kind ↔
    ∃ i < seen.count kind, (fraction kind i (rows.count kind), false) = call := by
  simp [callsOf, callsAt]

theorem callsOf_mem_quarter (hseen : seen.count kind ≤ rows.count kind) :
    ∀ call ∈ rows.callsOf seen exactFraction kind,
      (kind.phase : ℚ) / 4 ≤ call.1 ∧ call.1 < (kind.phase + 1 : ℚ) / 4 := by
  intro call hcall
  obtain ⟨i, hi, rfl⟩ := mem_callsOf_iff.mp hcall
  exact exactFraction_mem_quarter (hi.trans_le hseen)

theorem pairwise_callsOf (hseen : seen.count kind ≤ rows.count kind) :
    (rows.callsOf seen exactFraction kind).Pairwise fun a b => a.1 < b.1 := by
  rw [callsOf, callsAt, List.pairwise_map]
  refine List.pairwise_lt_range.imp_of_mem ?_
  intro i k _ hk hik
  exact exactFraction_lt hik ((List.mem_range.mp hk).le.trans hseen)

/-- From row to row and from phase to phase, the fractions grow. -/
theorem pairwise_calls (hseen : ∀ kind, seen.count kind ≤ rows.count kind) :
    (rows.calls seen exactFraction).Pairwise fun a b => a.1 < b.1 := by
  rw [calls, List.pairwise_flatMap]
  refine ⟨fun kind _ => pairwise_callsOf (hseen kind), ?_⟩
  have hphases : RecordKind.inOrder.Pairwise fun a b => a.phase + 1 ≤ b.phase := by decide
  refine hphases.imp fun {a b} hab x hx y hy => ?_
  have hle : (a.phase + 1 : ℚ) ≤ b.phase := by exact_mod_cast hab
  have hbelow := (callsOf_mem_quarter (hseen a) x hx).2
  have habove := (callsOf_mem_quarter (hseen b) y hy).1
  linarith

theorem calls_lt_one (hseen : ∀ kind, seen.count kind ≤ rows.count kind) :
    ∀ call ∈ rows.calls seen exactFraction, call.1 < 1 := by
  intro call hcall
  obtain ⟨kind, -, hcall⟩ := List.mem_flatMap.mp hcall
  have hbelow := (callsOf_mem_quarter (hseen kind) call hcall).2
  have hlast : (kind.phase : ℚ) ≤ 3 := by cases kind <;> norm_num [RecordKind.phase]
  linarith

theorem not_finished_of_mem_calls : ∀ call ∈ rows.calls seen fraction, call.2 = false := by
  intro call hcall
  obtain ⟨kind, -, hcall⟩ := List.mem_flatMap.mp hcall
  obtain ⟨i, -, rfl⟩ := mem_callsOf_iff.mp hcall
  rfl

theorem length_calls : (rows.calls seen fraction).length = seen.size := by
  simp [calls, size, totalOf, RecordKind.inOrder, callsOf, callsAt]

end MemoryRows

/-! ## The result -/

/-- The calls of an import that comes to its end. -/
structure MemoryRows.AnnouncedBy (rows : MemoryRows) (progress : List (Float32 × Bool)) : Prop where
  /-- One for each row in its phase and order, and then one to say that the import is done. -/
  calls : progress = rows.calls rows progressFraction ++ [(1.0, true)]
  /-- Before rounding, they say more and more. -/
  grows : (rows.calls rows exactFraction ++ [(1, true)]).Pairwise
    fun call later : ℚ × Bool => call.1 < later.1
  /-- Before rounding, a phase has a quarter of the whole. -/
  quarters : ∀ kind, ∀ call ∈ rows.callsOf rows exactFraction kind,
    (kind.phase : ℚ) / 4 ≤ call.1 ∧ call.1 < (kind.phase + 1 : ℚ) / 4
  length : progress.length = rows.size + 1

theorem RowSource.ClearTo.announcedBy {source : RowSource} {options : ImportOptions}
    (h : source.ClearTo options.onRowError 7) :
    source.rows.AnnouncedBy (importNetwork source options).progress where
  calls := h.progress_eq
  grows := by
    rw [List.pairwise_append]
    refine ⟨MemoryRows.pairwise_calls fun _ => le_rfl, List.pairwise_singleton _ _, ?_⟩
    intro call hcall last hlast
    obtain rfl := List.mem_singleton.mp hlast
    exact MemoryRows.calls_lt_one (fun _ => le_rfl) call hcall
  quarters := fun _ => MemoryRows.callsOf_mem_quarter le_rfl
  length := by
    rw [h.progress_eq, List.length_append, MemoryRows.length_calls]
    rfl

/-- The fraction at a row is computed by one formula, announced in rounded doubles and compared here
in rational numbers. An import that succeeds calls for every row in its phase and order, whether it
accepts or skips the row, and then once to say that it is done: its fractions grow, those of a phase
stay in its quarter, and there is one call more than rows. An import that fails at a step calls for
the rows before the step and never says that it is done. -/
theorem importNetwork_progress (source : RowSource) (options : ImportOptions) :
    (∀ kind position total,
      progressFraction kind position total =
          (slotFraction Nat.toFloat phaseCount kind.phase position total).toFloat32 ∧
        exactFraction kind position total =
          slotFraction (Nat.cast : ℕ → ℚ) phaseCount kind.phase position total ∧
        exactFraction kind position total = kind.phase / 4 + position / (4 * total)) ∧
      (∀ n, (importNetwork source options).outcome = .ok n →
        source.rows.AnnouncedBy (importNetwork source options).progress) ∧
      ∀ failure, (importNetwork source options).outcome = .error failure →
        ∃ step, source.EndsAt options.onRowError step failure ∧
          (importNetwork source options).progress =
            source.rows.calls (source.rows.before step) progressFraction ∧
          ∀ call ∈ (importNetwork source options).progress, call.2 = false := by
  refine ⟨fun kind position total => ⟨rfl, rfl, exactFraction_eq kind position total⟩, ?_⟩
  obtain ⟨n, hn, hclear⟩ | ⟨step, failure, hfailure, hends⟩ := importNetwork_cases source options
  · rw [hn]
    exact ⟨fun _ _ => hclear.announcedBy, nofun⟩
  · rw [hfailure, hends.progress_eq]
    refine ⟨nofun, fun other hother => ?_⟩
    obtain rfl : failure = other := by simpa using hother
    exact ⟨step, hends, rfl, MemoryRows.not_finished_of_mem_calls⟩

/-- Skipping, `detour` calls for all its rows. `deadEnd` ends at its second section. -/
theorem importNetwork_progress_detour :
    (∃ n, (importNetwork detour.source ⟨.skip, .singlePass⟩).outcome = .ok n) ∧
      (importNetwork detour.source ⟨.skip, .singlePass⟩).progress.length = 16 ∧
      (importNetwork deadEnd ⟨.fail, .twoPass⟩).outcome = .error deadEndFailure ∧
      (importNetwork deadEnd ⟨.fail, .twoPass⟩).progress =
        [ (progressFraction .roadNode 0 2, false), (progressFraction .roadNode 1 2, false),
          (progressFraction .roadSection 0 2, false) ] ∧
      [exactFraction .roadNode 0 2, exactFraction .roadNode 1 2, exactFraction .roadSection 0 2] =
        [0, 1 / 8, 1 / 4] := by
  have hok := outcome_importNetwork_skip detour .singlePass
  have hdetour := (importNetwork_progress detour.source ⟨.skip, .singlePass⟩).2.1 _ hok
  have herror : (importNetwork deadEnd ⟨.fail, .twoPass⟩).outcome = .error deadEndFailure :=
    (outcome_importNetwork_eq_error_iff _ _ _).mpr ⟨_, failsFirst_deadEnd⟩
  obtain ⟨hfractions, -, hdeadEnd⟩ := importNetwork_progress deadEnd ⟨.fail, .twoPass⟩
  obtain ⟨step, hends, hbefore, -⟩ := hdeadEnd _ herror
  obtain ⟨rfl, -⟩ := RowSource.FailsFirst.unique ⟨hends.breaks, hends.first⟩ failsFirst_deadEnd
  refine ⟨⟨_, hok⟩, hdetour.length, herror, hbefore, ?_⟩
  simp only [(hfractions _ _ _).2.2, RecordKind.phase]
  norm_num

end Multimodal
