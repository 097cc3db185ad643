import Multimodal.Proofs.Checks

/-!
# The steps of an import

An import asks for a stream, looks at each of its rows, asks for the next stream and so on. If it
ends at the first failure, then all rows before a row were accepted when it comes to the row, so
whether a step fails can be told from the rows alone (`RowSource.failureAt`).

* `FailsFirst.unique`: only one step is the first to fail.
* `MemoryRows.failureAt_before`: among the rows before a step, the steps before it fail as they do
  among all rows, and no others fail.
-/
namespace Multimodal

/-! ## Steps -/

/-- A step of an import. Rows are numbered in their stream, and those of public transport networks
in their network. -/
inductive ImportStep where
  | askNodes
  | node (position : Nat)
  | askSections
  | roadSection (position : Nat)
  | askNetworks
  | stop (network position : Nat)
  | connection (network position : Nat)
  deriving DecidableEq, Repr

namespace ImportStep

/-- The place of a step: its phase, its network and its row. -/
def place : ImportStep → Nat × Nat × Nat
  | .askNodes => (0, 0, 0)
  | .node position => (1, 0, position)
  | .askSections => (2, 0, 0)
  | .roadSection position => (3, 0, position)
  | .askNetworks => (4, 0, 0)
  | .stop network position => (5, network, position)
  | .connection network position => (6, network, position)

/-- Whether a step comes before another: in an earlier phase, or in the same phase for an earlier
network, or for an earlier row of the same network. -/
def Precedes (a b : ImportStep) : Prop :=
  a.place.1 < b.place.1 ∨
    a.place.1 = b.place.1 ∧
      (a.place.2.1 < b.place.2.1 ∨ a.place.2.1 = b.place.2.1 ∧ a.place.2.2 < b.place.2.2)

instance (a b : ImportStep) : Decidable (a.Precedes b) := inferInstanceAs (Decidable (_ ∨ _))

theorem Precedes.trans {a b c : ImportStep} (hab : a.Precedes b) (hbc : b.Precedes c) :
    a.Precedes c := by
  unfold Precedes at *
  omega

theorem place_inj {a b : ImportStep} (h : a.place = b.place) : a = b := by
  cases a <;> cases b <;> simp_all [place]

/-- Of two steps one comes first. -/
theorem precedes_or_eq_or_precedes (a b : ImportStep) : a.Precedes b ∨ a = b ∨ b.Precedes a := by
  by_cases h : a.place = b.place
  · exact .inr (.inl (place_inj h))
  · simp only [Prod.ext_iff] at h
    unfold Precedes
    omega

theorem node_precedes_roadSection (i k : Nat) : (node i).Precedes (.roadSection k) :=
  .inl (by simp [place])

theorem roadSection_precedes_stop (i j k : Nat) : (roadSection i).Precedes (.stop j k) :=
  .inl (by simp [place])

theorem stop_precedes_connection (j i l k : Nat) : (stop j i).Precedes (.connection l k) :=
  .inl (by simp [place])

/-- The kind and the number of the row that a step looks at, if it looks at one. -/
def row? : ImportStep → Option (RecordKind × Nat)
  | .node position => some (.roadNode, position)
  | .roadSection position => some (.roadSection, position)
  | .stop _ position => some (.stop, position)
  | .connection _ position => some (.transitSection, position)
  | _ => none

def network (step : ImportStep) : Nat := step.place.2.1

end ImportStep

/-- The failure of the row that a step looks at. -/
def MemoryRows.failureAt (rows : MemoryRows) : ImportStep → Option Failure
  | .node i =>
    rows.nodes[i]?.bind fun row => firstFailure (row.checks ((rows.nodes.take i).map (·.id)))
  | .roadSection i =>
    rows.sections[i]?.bind fun row =>
      firstFailure (row.checks (rows.nodes.map (·.id)) ((rows.sections.take i).map (·.id)) i)
  | .stop j i =>
    rows.networks[j]?.bind fun t => t.stops[i]?.bind fun row =>
      firstFailure (row.checks (rows.sections.map (·.id)) ((t.stops.take i).map (·.id)) i)
  | .connection j i =>
    rows.networks[j]?.bind fun t => t.connections[i]?.bind fun row =>
      firstFailure (row.checks (t.stops.map (·.id)) i)
  | _ => none

/-- Why there is no value. -/
def errorOf {α : Type} : Except Failure α → Option Failure
  | .ok _ => none
  | .error failure => some failure

namespace RowSource

def rows (source : RowSource) : MemoryRows where
  nodes := source.nodes.toOption.getD []
  sections := source.sections.toOption.getD []
  networks := source.networks.toOption.getD []

/-- The failure of a step: that of its stream or of its row. -/
def failureAt (source : RowSource) : ImportStep → Option Failure
  | .askNodes => errorOf source.nodes
  | .askSections => errorOf source.sections
  | .askNetworks => errorOf source.networks
  | step => source.rows.failureAt step

theorem failureAt_of_row {source : RowSource} {step : ImportStep} {row : RecordKind × Nat}
    (h : step.row? = some row) : source.failureAt step = source.rows.failureAt step := by
  cases step <;> first | rfl | cases h

theorem rows_failureAt_eq_none {source : RowSource} {step : ImportStep}
    (h : source.failureAt step = none) : source.rows.failureAt step = none := by
  cases step <;> first | rfl | exact h

/-- A step fails and no step before it does. -/
structure FailsFirst (source : RowSource) (step : ImportStep) (failure : Failure) : Prop where
  fails : source.failureAt step = some failure
  first : ∀ other : ImportStep, other.Precedes step → source.failureAt other = none

theorem FailsFirst.unique {source : RowSource} {a b : ImportStep} {f g : Failure}
    (ha : source.FailsFirst a f) (hb : source.FailsFirst b g) : a = b ∧ f = g := by
  obtain hab | rfl | hba := a.precedes_or_eq_or_precedes b
  · have hnone := hb.first a hab
    rw [ha.fails] at hnone
    cases hnone
  · have hsame := ha.fails.symm.trans hb.fails
    exact ⟨rfl, Option.some.inj hsame⟩
  · have hnone := ha.first b hba
    rw [hb.fails] at hnone
    cases hnone

end RowSource

/-! ## The moment of a step -/

/-- The elements up to the first whose number does not satisfy `p`. -/
def reached {α : Type} (p : Nat → Bool) : List α → List α
  | [] => []
  | x :: rest => if p 0 then x :: reached (fun i => p (i + 1)) rest else []

section
variable {α : Type} {p : Nat → Bool}

theorem reached_eq_self (h : ∀ i, p i = true) (xs : List α) : reached p xs = xs := by
  induction xs generalizing p with
  | nil => rfl
  | cons x rest ih => rw [reached, if_pos (h 0), ih fun i => h (i + 1)]

/-- An element that was reached satisfies `p`, and the elements before it are the same. -/
theorem of_getElem?_reached {xs : List α} {i : Nat} {x : α} (h : (reached p xs)[i]? = some x) :
    p i = true ∧ xs[i]? = some x ∧ (reached p xs).take i = xs.take i := by
  induction xs generalizing p i with
  | nil => simp [reached] at h
  | cons y rest ih =>
    rw [reached] at h ⊢
    split at h
    · rename_i hzero
      cases i with
      | zero => exact ⟨hzero, h, rfl⟩
      | succ i =>
        obtain ⟨hp, hx, htake⟩ := ih h
        exact ⟨hp, hx, by rw [if_pos hzero, List.take_succ_cons, List.take_succ_cons, htake]⟩
    · simp at h

end

namespace MemoryRows

/-- The rows that an import looks at before a step. -/
def before (rows : MemoryRows) (step : ImportStep) : MemoryRows where
  nodes := reached (fun i => (ImportStep.node i).Precedes step) rows.nodes
  sections := reached (fun i => (ImportStep.roadSection i).Precedes step) rows.sections
  networks := rows.networks.mapIdx fun j t =>
    { t with
      stops := reached (fun i => (ImportStep.stop j i).Precedes step) t.stops
      connections := reached (fun i => (ImportStep.connection j i).Precedes step) t.connections }

variable {rows : MemoryRows} {step other : ImportStep} {failure : Failure}

theorem nodes_before (h : ∀ i, (ImportStep.node i).Precedes step) :
    (rows.before step).nodes = rows.nodes :=
  reached_eq_self (fun i => decide_eq_true (h i)) rows.nodes

theorem sections_before (h : ∀ i, (ImportStep.roadSection i).Precedes step) :
    (rows.before step).sections = rows.sections :=
  reached_eq_self (fun i => decide_eq_true (h i)) rows.sections

theorem stops_before {j : Nat} {t : TransitRows} (ht : rows.networks[j]? = some t)
    (h : ∀ i, (ImportStep.stop j i).Precedes step) :
    ∃ kept, (rows.before step).networks[j]? = some kept ∧ kept.stops = t.stops := by
  refine ⟨_, by rw [before, List.getElem?_mapIdx, ht, Option.map_some], ?_⟩
  exact reached_eq_self (fun i => decide_eq_true (h i)) t.stops

/-- What fails among the rows before a step is a step before it that fails. -/
theorem failureAt_before (h : (rows.before step).failureAt other = some failure) :
    other.Precedes step ∧ rows.failureAt other = some failure := by
  cases other with
  | askNodes => cases h
  | askSections => cases h
  | askNetworks => cases h
  | node i =>
    simp only [failureAt, Option.bind_eq_some_iff] at h ⊢
    obtain ⟨row, hrow, hfail⟩ := h
    obtain ⟨hprecedes, hrow', htake⟩ := of_getElem?_reached hrow
    rw [before, htake] at hfail
    exact ⟨of_decide_eq_true hprecedes, row, hrow', hfail⟩
  | roadSection i =>
    simp only [failureAt, Option.bind_eq_some_iff] at h ⊢
    obtain ⟨row, hrow, hfail⟩ := h
    obtain ⟨hprecedes, hrow', htake⟩ := of_getElem?_reached hrow
    have hstep := of_decide_eq_true hprecedes
    -- the row comes before the step, so all node rows do
    have hnodes : (rows.before step).nodes = rows.nodes :=
      nodes_before fun k => (ImportStep.node_precedes_roadSection k i).trans hstep
    rw [hnodes, before, htake] at hfail
    exact ⟨hstep, row, hrow', hfail⟩
  | stop j i =>
    simp only [failureAt, Option.bind_eq_some_iff] at h ⊢
    obtain ⟨t, ht, row, hrow, hfail⟩ := h
    simp only [before, List.getElem?_mapIdx, Option.map_eq_some_iff] at ht
    obtain ⟨t, ht, rfl⟩ := ht
    obtain ⟨hprecedes, hrow', htake⟩ := of_getElem?_reached hrow
    have hstep := of_decide_eq_true hprecedes
    have hsections : (rows.before step).sections = rows.sections :=
      sections_before fun k => (ImportStep.roadSection_precedes_stop k j i).trans hstep
    rw [hsections, htake] at hfail
    exact ⟨hstep, t, ht, row, hrow', hfail⟩
  | connection j i =>
    simp only [failureAt, Option.bind_eq_some_iff] at h ⊢
    obtain ⟨t, ht, row, hrow, hfail⟩ := h
    simp only [before, List.getElem?_mapIdx, Option.map_eq_some_iff] at ht
    obtain ⟨t, ht, rfl⟩ := ht
    obtain ⟨hprecedes, hrow', -⟩ := of_getElem?_reached hrow
    have hstep := of_decide_eq_true hprecedes
    have hstops : ∀ k, decide ((ImportStep.stop j k).Precedes step) = true := fun k =>
      decide_eq_true ((ImportStep.stop_precedes_connection j k j i).trans hstep)
    simp only [reached_eq_self hstops] at hfail
    exact ⟨hstep, t, ht, row, hrow', hfail⟩

end MemoryRows

end Multimodal
