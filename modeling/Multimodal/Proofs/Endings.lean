import Multimodal.Proofs.FirstFailure

/-!
# The step that ends an import

A row that is refused ends an import only under a policy that fails; a missing stream does under
every policy. So an import either succeeds, or it fails at the first step that ends it
(`importNetwork_cases`).
-/
namespace Multimodal

/-! ## Policies -/

namespace RowPolicy

/-- Whether refusals do not matter to a policy. -/
def Passes (policy : RowPolicy) (refusals : List Failure) : Prop :=
  policy = .skip ∨ refusals = []

instance (policy : RowPolicy) (refusals : List Failure) : Decidable (policy.Passes refusals) :=
  inferInstanceAs (Decidable (_ ∨ _))

theorem errorOf_settle_eq_none_iff {α : Type} (policy : RowPolicy) (refusals : List Failure)
    (value : α) : errorOf (policy.settle refusals value) = none ↔ policy.Passes refusals := by
  rw [Passes, ← exists_settle_eq_ok_iff policy refusals value]
  cases policy.settle refusals value <;> simp

theorem not_passes_fail {refusals : List Failure} (h : refusals.head? ≠ none) :
    ¬RowPolicy.fail.Passes refusals := by
  simpa [Passes] using h

theorem errorOf_settle_ne_none {α : Type} {policy : RowPolicy} {refusals : List Failure} {value : α}
    (hpolicy : policy = .fail) (h : refusals.head? ≠ none) :
    errorOf (policy.settle refusals value) ≠ none := by
  rw [Ne, errorOf_settle_eq_none_iff, hpolicy]
  exact not_passes_fail h

end RowPolicy

/-! ## The first of many, if there is one -/

theorem FirstOf.ne_none {α : Type} {f : Nat → Option α} {first : Option α} (h : FirstOf f first)
    {i : Nat} {a : α} (hi : f i = some a) : first ≠ none := by
  rintro rfl
  cases hi.symm.trans (h i)

theorem FirstOfAll.ne_none {α : Type} {f : Nat → Nat → Option α} {first : Option α}
    (h : FirstOfAll f first) {j i : Nat} {a : α} (hi : f j i = some a) : first ≠ none := by
  rintro rfl
  cases hi.symm.trans (h j i)

/-! ## The step that ends an import -/

namespace RowSource

/-- The failure of a step that ends an import: a policy that skips bears the failures of rows. -/
def breakAt (source : RowSource) (policy : RowPolicy) (step : ImportStep) : Option Failure :=
  match policy, step.row? with
  | .skip, some _ => none
  | _, _ => source.failureAt step

/-- An import ends at a step: it is the first that ends imports. -/
structure EndsAt (source : RowSource) (policy : RowPolicy) (step : ImportStep)
    (failure : Failure) : Prop where
  breaks : source.breakAt policy step = some failure
  first : ∀ other : ImportStep, other.Precedes step → source.breakAt policy other = none

/-- No step of the first phases ends an import. -/
def ClearTo (source : RowSource) (policy : RowPolicy) (phases : Nat) : Prop :=
  ∀ step : ImportStep, step.place.1 < phases → source.breakAt policy step = none

variable {source : RowSource} {policy : RowPolicy} {step : ImportStep} {failure : Failure}
  {phases : Nat}

theorem EndsAt.clearTo (h : source.EndsAt policy step failure) :
    source.ClearTo policy step.place.1 :=
  fun other hother => h.first other (.inl hother)

/-- A row ends an import only under a policy that fails, and is the first to fail. -/
theorem EndsAt.failsFirst {row : RecordKind × Nat} (h : source.EndsAt policy step failure)
    (hrow : step.row? = some row) : policy = .fail ∧ source.FailsFirst step failure := by
  cases policy with
  | skip =>
    have hbreaks := h.breaks
    simp [breakAt, hrow] at hbreaks
  | fail => exact ⟨rfl, h.breaks, h.first⟩

theorem ClearTo.askNodes (h : source.ClearTo policy phases) (hphases : 0 < phases) :
    errorOf source.nodes = none := by
  have hstep := h .askNodes hphases
  cases policy <;> exact hstep

theorem ClearTo.askSections (h : source.ClearTo policy phases) (hphases : 2 < phases) :
    errorOf source.sections = none := by
  have hstep := h .askSections hphases
  cases policy <;> exact hstep

theorem ClearTo.askNetworks (h : source.ClearTo policy phases) (hphases : 4 < phases) :
    errorOf source.networks = none := by
  have hstep := h .askNetworks hphases
  cases policy <;> exact hstep

theorem ClearTo.nodes (h : source.ClearTo policy phases) (hphases : 1 < phases) :
    policy.Passes (nodeRefusals source.rows.nodes) := by
  cases policy with
  | skip => exact .inl rfl
  | fail =>
    have hfirst := (firstOf_nodeRefusals source.rows).eq_none fun i => h (.node i) hphases
    exact .inr (List.head?_eq_none_iff.mp hfirst)

theorem ClearTo.sections (h : source.ClearTo policy phases) (hphases : 3 < phases) :
    policy.Passes (sectionRefusals source.rows.nodes source.rows.sections) := by
  cases policy with
  | skip => exact .inl rfl
  | fail => exact .inr (Clear.sectionRefusals_eq_nil h hphases)

theorem ClearTo.stops (h : source.ClearTo policy phases) (hphases : 5 < phases)
    (linking : StationLinking) : policy.Passes (source.rows.networks.flatMap
      (stopRefusals linking source.rows.roads.sectionIndex)) := by
  cases policy with
  | skip => exact .inl rfl
  | fail => exact .inr (Clear.stopRefusals_eq_nil h hphases linking)

theorem ClearTo.connections (h : source.ClearTo policy phases) (hphases : 6 < phases)
    (linking : StationLinking) : policy.Passes (source.rows.networks.flatMap
      (connectionRefusals linking source.rows.roads.sectionIndex)) := by
  cases policy with
  | skip => exact .inl rfl
  | fail =>
    have hfirst := firstOfAll_connectionRefusals linking (Clear.sectionRefusals_eq_nil h (by omega))
      (Clear.stopRefusals_eq_nil h (by omega) linking)
    have hnone := hfirst.eq_none fun j i => h (.connection j i) hphases
    exact .inr (List.head?_eq_none_iff.mp hnone)

end RowSource

/-- Either no step ends an import and it succeeds, or it fails at the first step that does. -/
theorem importNetwork_cases (source : RowSource) (options : ImportOptions) :
    (∃ n, (importNetwork source options).outcome = .ok n ∧ source.ClearTo options.onRowError 7) ∨
      ∃ step failure, (importNetwork source options).outcome = .error failure ∧
        source.EndsAt options.onRowError step failure := by
  obtain ⟨policy, linking⟩ := options
  cases policy with
  | fail =>
    obtain ⟨n, hn, hnone⟩ | ⟨step, failure, hfailure, hfirst⟩ :=
      importNetwork_fail_cases source linking
    · exact .inl ⟨n, hn, fun step _ => hnone step⟩
    · exact .inr ⟨step, failure, hfailure, hfirst.fails, hfirst.first⟩
  | skip =>
    obtain ⟨nodes, sections, networks⟩ := source
    simp only [outcome_importNetwork, settle_skip]
    cases nodes with
    | error failure =>
      refine .inr ⟨.askNodes, failure, rfl, rfl, fun other hother => ?_⟩
      cases other <;> simp [ImportStep.Precedes, ImportStep.place] at hother
    | ok nodes =>
      cases sections with
      | error failure =>
        refine .inr ⟨.askSections, failure, rfl, rfl, fun other hother => ?_⟩
        cases other <;> first | rfl | simp [ImportStep.Precedes, ImportStep.place] at hother
      | ok sections =>
        cases networks with
        | error failure =>
          refine .inr ⟨.askNetworks, failure, rfl, rfl, fun other hother => ?_⟩
          cases other <;> first | rfl | simp [ImportStep.Precedes, ImportStep.place] at hother
        | ok networks =>
          exact .inl ⟨_, rfl, fun step _ => by cases step <;> rfl⟩

end Multimodal
