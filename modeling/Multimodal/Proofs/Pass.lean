import Mathlib.Data.List.Basic
import Multimodal.Import.Run

/-!
# What a pass over rows comes to

A pass offers rows to a state under a policy. Three things about it do not depend on the policy: the
state once the refused rows are left out (`Acceptance.after`), the rows that got in
(`Acceptance.accepted`), and the failures of the others in their order (`Acceptance.refusals`). The
policy decides what the refusals do to the whole (`RowPolicy.settle`).

* `outcome_pass`: a pass ends as its policy settles its refusals.
* `after_accepted`, `refusals_accepted`: offered alone, the rows that got in lead to the same state,
  and none of them is refused.
* `Acceptance.Follows`: what becomes of a row is foretold by a check against the rows accepted
  before it. A pass then accepts the valid rows whose id no earlier valid row has
  (`accepted_eq_firsts`), and its first refusal is that of the first row that fails the check
  against all rows before it (`firstOf_refusals`).
-/
namespace Multimodal

variable {α β ρ σ : Type}

/-! ## Policies -/

/-- What a policy makes of refusals on the way to a value. -/
def RowPolicy.settle (policy : RowPolicy) (refusals : List Failure) (value : α) :
    Except Failure α :=
  match policy, refusals with
  | .fail, failure :: _ => .error failure
  | _, _ => .ok value

@[simp] theorem settle_nil (policy : RowPolicy) (value : α) :
    policy.settle [] value = .ok value := by
  cases policy <;> rfl

@[simp] theorem settle_skip (refusals : List Failure) (value : α) :
    RowPolicy.skip.settle refusals value = .ok value := rfl

@[simp] theorem settle_fail_cons (failure : Failure) (rest : List Failure) (value : α) :
    RowPolicy.fail.settle (failure :: rest) value = .error failure := rfl

theorem settle_fail_eq_ok_iff (refusals : List Failure) (value other : α) :
    RowPolicy.fail.settle refusals value = .ok other ↔ refusals = [] ∧ value = other := by
  cases refusals <;> simp

theorem eq_of_settle_eq_ok {policy : RowPolicy} {refusals : List Failure} {value other : α}
    (h : policy.settle refusals value = .ok other) : value = other := by
  cases policy with
  | fail => exact ((settle_fail_eq_ok_iff refusals value other).mp h).2
  | skip => simpa using h

/-- Settled refusals leave a value if none matters to the policy. -/
theorem exists_settle_eq_ok_iff (policy : RowPolicy) (refusals : List Failure) (value : α) :
    (∃ other, policy.settle refusals value = .ok other) ↔ policy = .skip ∨ refusals = [] := by
  cases policy with
  | fail => simp [settle_fail_eq_ok_iff]
  | skip => simp

/-- What follows on a settled value settles the refusals of both parts, the first part's first. -/
theorem settle_bind (policy : RowPolicy) (refusals more : List Failure) (value : α) (other : β)
    (next : α → Except Failure β) (h : next value = policy.settle more other) :
    (policy.settle refusals value).bind next = policy.settle (refusals ++ more) other := by
  cases refusals with
  | nil => simpa [Except.bind] using h
  | cons failure rest =>
    cases policy with
    | fail => rfl
    | skip => simpa [Except.bind] using h

theorem settle_bind_congr {γ : Type} (policy : RowPolicy) (refusals : List Failure) (value : α)
    (other : β) (next : α → Except Failure γ) (otherNext : β → Except Failure γ)
    (h : next value = otherNext other) :
    (policy.settle refusals value).bind next = (policy.settle refusals other).bind otherNext := by
  cases refusals with
  | nil => simpa [Except.bind] using h
  | cons failure rest =>
    cases policy with
    | fail => rfl
    | skip => simpa [Except.bind] using h

theorem settle_bind_ok (policy : RowPolicy) (refusals : List Failure) (value : α) (other : β)
    (next : α → Except Failure β) (h : next value = .ok other) :
    (policy.settle refusals value).bind next = policy.settle refusals other := by
  rw [settle_bind policy refusals [] value other next (by rw [h, settle_nil]), List.append_nil]

/-! ## The rows that get in and the rows that do not -/

/-- What becomes of one row, given its number and the state before it. -/
abbrev Acceptance (ρ σ : Type) := Nat → ρ → σ → Except Failure (σ × List Note)

namespace Acceptance

variable (accept : Acceptance ρ σ)

def after : Nat → List ρ → σ → σ
  | _, [], state => state
  | position, row :: rest, state =>
    match accept position row state with
    | .ok (next, _) => after (position + 1) rest next
    | .error _ => after (position + 1) rest state

def accepted : Nat → List ρ → σ → List ρ
  | _, [], _ => []
  | position, row :: rest, state =>
    match accept position row state with
    | .ok (next, _) => row :: accepted (position + 1) rest next
    | .error _ => accepted (position + 1) rest state

def refusals : Nat → List ρ → σ → List Failure
  | _, [], _ => []
  | position, row :: rest, state =>
    match accept position row state with
    | .ok (next, _) => refusals (position + 1) rest next
    | .error failure => failure :: refusals (position + 1) rest state

/-- What becomes of a row that is not refused does not depend on its number. -/
def Steady : Prop :=
  ∀ position row state next notes, accept position row state = .ok (next, notes) →
    ∀ other, accept other row state = .ok (next, notes)

end Acceptance

open Acceptance

section
variable (accept : Acceptance ρ σ)

/-- A pass ends as its policy settles its refusals, with their number. -/
theorem outcome_pass (policy : RowPolicy) (kind : RecordKind) (tick : Nat → Event) (position : Nat)
    (rows : List ρ) (state : σ) :
    (pass policy kind tick accept position rows state).outcome =
      policy.settle (accept.refusals position rows state)
        (accept.after position rows state, (accept.refusals position rows state).length) := by
  induction rows generalizing position state with
  | nil => simp [pass, refusals, after]
  | cons row rest ih =>
    cases h : accept position row state with
    | ok result => simp [pass, refusals, after, h, ih, Report.announce, Except.bind]
    | error failure =>
      cases policy with
      | fail => simp [pass, refusals, h, Report.fail]
      | skip => simp [pass, refusals, after, h, ih, Report.announce, Except.bind, -bind_pure_comp]

theorem length_accepted_add_refusals (position : Nat) (rows : List ρ) (state : σ) :
    (accept.accepted position rows state).length + (accept.refusals position rows state).length =
      rows.length := by
  induction rows generalizing position state with
  | nil => rfl
  | cons row rest ih =>
    simp only [accepted, refusals, List.length_cons]
    split
    · rename_i next notes h
      have := ih (position + 1) next
      simp only [List.length_cons]
      omega
    · have := ih (position + 1) state
      simp only [List.length_cons]
      omega

theorem accepted_sublist (position : Nat) (rows : List ρ) (state : σ) :
    (accept.accepted position rows state).Sublist rows := by
  induction rows generalizing position state with
  | nil => exact List.Sublist.refl _
  | cons row rest ih =>
    simp only [accepted]
    split
    · exact (ih _ _).cons_cons row
    · exact (ih _ _).cons row

theorem accepted_eq_of_refusals_eq_nil {position : Nat} {rows : List ρ} {state : σ}
    (h : accept.refusals position rows state = []) :
    accept.accepted position rows state = rows := by
  have hlen := length_accepted_add_refusals accept position rows state
  rw [h] at hlen
  exact (accepted_sublist accept position rows state).eq_of_length hlen

/-- Offered alone, the accepted rows are all accepted again. -/
theorem refusals_accepted (steady : accept.Steady) (position other : Nat) (rows : List ρ)
    (state : σ) : accept.refusals other (accept.accepted position rows state) state = [] := by
  induction rows generalizing position other state with
  | nil => rfl
  | cons row rest ih =>
    cases h : accept position row state with
    | ok result =>
      have again := steady position row state result.1 result.2 h other
      simp only [accepted, h, refusals, again]
      exact ih (position + 1) (other + 1) result.1
    | error failure =>
      simp only [accepted, h]
      exact ih (position + 1) other state

/-- Offered alone, the accepted rows lead to the state that all rows led to. -/
theorem after_accepted (steady : accept.Steady) (position other : Nat) (rows : List ρ)
    (state : σ) :
    accept.after other (accept.accepted position rows state) state =
      accept.after position rows state := by
  induction rows generalizing position other state with
  | nil => rfl
  | cons row rest ih =>
    cases h : accept position row state with
    | ok result =>
      have again := steady position row state result.1 result.2 h other
      simp only [accepted, h, after, again]
      exact ih (position + 1) (other + 1) result.1
    | error failure =>
      simp only [accepted, after, h]
      exact ih (position + 1) other state

end

/-- What every accepted row keeps holds after all rows. -/
theorem after_of_keeps {accept : Acceptance ρ σ} {P : σ → Prop}
    (keeps : ∀ {position row state next notes}, accept position row state = .ok (next, notes) →
      P state → P next)
    (position : Nat) (rows : List ρ) {state : σ} (h : P state) :
    P (accept.after position rows state) := by
  induction rows generalizing position state with
  | nil => exact h
  | cons row rest ih =>
    cases hrow : accept position row state with
    | ok result =>
      simp only [after, hrow]
      exact ih (position + 1) (keeps hrow h)
    | error failure =>
      simp only [after, hrow]
      exact ih (position + 1) h

/-! ## The first of many -/

/-- The first value of a sequence, if it has any. -/
def FirstOf (f : Nat → Option α) : Option α → Prop
  | none => ∀ i, f i = none
  | some a => ∃ i, f i = some a ∧ ∀ k < i, f k = none

theorem FirstOf.of_succ {f : Nat → Option α} {first : Option α} (hzero : f 0 = none)
    (h : FirstOf (fun i => f (i + 1)) first) : FirstOf f first := by
  cases first with
  | none =>
    intro i
    cases i with
    | zero => exact hzero
    | succ i => exact h i
  | some a =>
    obtain ⟨i, hi, hbefore⟩ := h
    refine ⟨i + 1, hi, ?_⟩
    intro k hk
    cases k with
    | zero => exact hzero
    | succ k => exact hbefore k (by omega)

theorem FirstOf.eq_none {f : Nat → Option α} {first : Option α} (h : FirstOf f first)
    (hnone : ∀ i, f i = none) : first = none := by
  cases first with
  | none => rfl
  | some a =>
    obtain ⟨i, hi, -⟩ := h
    cases hi.symm.trans (hnone i)

/-- The first value of a sequence of sequences, if it has any. -/
def FirstOfAll (f : Nat → Nat → Option α) : Option α → Prop
  | none => ∀ j i, f j i = none
  | some a => ∃ j i, f j i = some a ∧ (∀ l < i, f j l = none) ∧ ∀ k < j, ∀ l, f k l = none

theorem FirstOfAll.eq_none {f : Nat → Nat → Option α} {first : Option α} (h : FirstOfAll f first)
    (hnone : ∀ j i, f j i = none) : first = none := by
  cases first with
  | none => rfl
  | some a =>
    obtain ⟨j, i, hji, -⟩ := h
    cases hji.symm.trans (hnone j i)

/-- The first value of the first list that has one is the first of all. -/
theorem firstOfAll_flatMap {f : Nat → Nat → Option α} {values : β → List α} {items : List β}
    (inside : ∀ j item, items[j]? = some item → FirstOf (f j) (values item).head?)
    (outside : ∀ j, items[j]? = none → ∀ i, f j i = none) :
    FirstOfAll f (items.flatMap values).head? := by
  induction items generalizing f with
  | nil =>
    intro j i
    exact outside j rfl i
  | cons item rest ih =>
    have hfirst := inside 0 item rfl
    cases hvalues : values item with
    | cons value more =>
      rw [hvalues] at hfirst
      obtain ⟨i, hi, hbefore⟩ := hfirst
      simp only [List.flatMap_cons, hvalues, List.cons_append, List.head?_cons]
      exact ⟨0, i, hi, hbefore, by simp⟩
    | nil =>
      rw [hvalues] at hfirst
      have hrest := ih (f := fun j => f (j + 1)) (fun j => inside (j + 1)) fun j => outside (j + 1)
      rw [List.flatMap_cons, hvalues, List.nil_append]
      cases hhead : (rest.flatMap values).head? with
      | none =>
        rw [hhead] at hrest
        intro j
        cases j with
        | zero => exact hfirst
        | succ j => exact hrest j
      | some a =>
        rw [hhead] at hrest
        obtain ⟨j, i, hji, hsame, hbefore⟩ := hrest
        refine ⟨j + 1, i, hji, hsame, ?_⟩
        intro k hk
        cases k with
        | zero => exact hfirst
        | succ k => exact hbefore k (by omega)

/-! ## Checks against the accepted rows -/

/-- A check foretells a pass: whenever a state holds the rows accepted so far, a row is refused with
the failure that the check finds, and if it finds none the row is accepted and held as well. -/
structure Acceptance.Follows (accept : Acceptance ρ σ) (check : List ρ → Nat → ρ → Option Failure)
    (Holds : List ρ → σ → Prop) : Prop where
  refuses : ∀ {kept position row state failure}, Holds kept state →
    check kept position row = some failure → accept position row state = .error failure
  accepts : ∀ {kept position row state}, Holds kept state → check kept position row = none →
    ∃ next notes, accept position row state = .ok (next, notes) ∧ Holds (kept ++ [row]) next

/-- The rows whose key occurs in no earlier row. -/
def firsts (key : ρ → RecordId) (rows : List ρ) : List ρ :=
  (rows.zipIdx.filter fun (row, i) => !((rows.take i).map key).contains (key row)).map (·.1)

theorem firsts_cons (key : ρ → RecordId) (row : ρ) (rest : List ρ) :
    firsts key (row :: rest) = row :: (firsts key rest).filter (key · != key row) := by
  simp only [firsts, List.zipIdx_cons', List.filter_cons, List.take_zero, List.map_nil,
    List.contains_nil, Bool.not_false, if_true, List.map_cons, List.filter_map, List.map_map,
    List.filter_filter]
  congr 2
  apply List.filter_congr
  rintro ⟨other, i⟩ -
  by_cases h : key other = key row <;> simp [h]

theorem mem_map_firsts {key : ρ → RecordId} {rows : List ρ} {x : RecordId} :
    x ∈ (firsts key rows).map key ↔ x ∈ rows.map key := by
  induction rows with
  | nil => rfl
  | cons row rest ih =>
    rw [firsts_cons, List.map_cons, List.map_cons, List.mem_cons, List.mem_cons, ← ih]
    by_cases hx : x = key row
    · simp [hx]
    · simp only [hx, false_or, List.mem_map, List.mem_filter, bne_iff_ne, ne_eq]
      constructor
      · rintro ⟨other, ⟨hmem, -⟩, rfl⟩
        exact ⟨other, hmem, rfl⟩
      · rintro ⟨other, hmem, rfl⟩
        exact ⟨other, ⟨hmem, hx⟩, rfl⟩

section
variable {accept : Acceptance ρ σ} {check : List ρ → Nat → ρ → Option Failure}
  {Holds : List ρ → σ → Prop} (follows : accept.Follows check Holds)
include follows

/-- What holds of the accepted rows holds after a whole pass. -/
theorem Acceptance.Follows.after {kept : List ρ} (state : σ) (h : Holds kept state) (position : Nat)
    (rows : List ρ) :
    Holds (kept ++ accept.accepted position rows state) (accept.after position rows state) := by
  induction rows generalizing kept position state with
  | nil => simpa [Acceptance.accepted, Acceptance.after] using h
  | cons row rest ih =>
    cases hc : check kept position row with
    | some failure =>
      have refused := follows.refuses h hc
      simp only [Acceptance.accepted, Acceptance.after, refused]
      exact ih state h (position + 1)
    | none =>
      obtain ⟨next, notes, admitted, hnext⟩ := follows.accepts h hc
      simp only [Acceptance.accepted, Acceptance.after, admitted]
      simpa using ih next hnext (position + 1)

/-- A check for validity and a new key accepts the valid rows whose key no earlier valid row has. -/
theorem Acceptance.Follows.accepted_eq_firsts (key : ρ → RecordId) {valid : ρ → Bool}
    (accepts : ∀ kept position row,
      check kept position row = none ↔ valid row = true ∧ key row ∉ kept.map key)
    {kept : List ρ} (state : σ) (h : Holds kept state) (position : Nat) (rows : List ρ) :
    accept.accepted position rows state =
      (firsts key (rows.filter valid)).filter fun row => !(kept.map key).contains (key row) := by
  induction rows generalizing kept position state with
  | nil => rfl
  | cons row rest ih =>
    cases hc : check kept position row with
    | some failure =>
      have refused := follows.refuses h hc
      have hbad : ¬(valid row = true ∧ key row ∉ kept.map key) := by
        rw [← accepts kept position row, hc]
        simp
      simp only [Acceptance.accepted, refused, ih state h (position + 1)]
      by_cases hv : valid row = true
      · -- the row is valid, so its key was seen, and the rows it shadows are shadowed already
        have hseen : key row ∈ kept.map key := by
          by_contra hnew
          exact hbad ⟨hv, hnew⟩
        rw [List.filter_cons_of_pos hv, firsts_cons, List.filter_cons_of_neg (by simpa using hseen),
          List.filter_filter]
        apply List.filter_congr
        intro other _
        by_cases hk : key other = key row
        · simp only [hk, bne_self_eq_false, Bool.and_false, Bool.not_eq_false']
          simpa using hseen
        · simp [hk]
      · rw [List.filter_cons_of_neg hv]
    | none =>
      obtain ⟨next, notes, admitted, hnext⟩ := follows.accepts h hc
      obtain ⟨hv, hnew⟩ := (accepts kept position row).mp hc
      simp only [Acceptance.accepted, admitted, ih next hnext (position + 1)]
      rw [List.filter_cons_of_pos hv, firsts_cons, List.filter_cons_of_pos (by simpa using hnew),
        List.filter_filter]
      congr 1
      apply List.filter_congr
      intro other _
      by_cases hk : key other = key row <;> simp [hk]

/-- A check for validity alone accepts the valid rows. -/
theorem Acceptance.Follows.accepted_eq_filter {valid : ρ → Bool}
    (accepts : ∀ kept position row, check kept position row = none ↔ valid row = true)
    {kept : List ρ} (state : σ) (h : Holds kept state) (position : Nat) (rows : List ρ) :
    accept.accepted position rows state = rows.filter valid := by
  induction rows generalizing kept position state with
  | nil => rfl
  | cons row rest ih =>
    cases hc : check kept position row with
    | some failure =>
      have hbad : ¬valid row = true := by
        rw [← accepts kept position row, hc]
        simp
      simp only [Acceptance.accepted, follows.refuses h hc, ih state h (position + 1)]
      rw [List.filter_cons_of_neg hbad]
    | none =>
      obtain ⟨next, notes, admitted, hnext⟩ := follows.accepts h hc
      simp only [Acceptance.accepted, admitted, ih next hnext (position + 1)]
      rw [List.filter_cons_of_pos ((accepts kept position row).mp hc)]

/-- What the check says of all rows says which are refused: two states that follow one check refuse
alike. -/
theorem Acceptance.Follows.refusals_eq {τ : Type} {other : Acceptance ρ τ}
    {HoldsToo : List ρ → τ → Prop} (too : other.Follows check HoldsToo) {kept : List ρ}
    (state : σ) (h : Holds kept state) (state' : τ) (h' : HoldsToo kept state') (position : Nat)
    (rows : List ρ) :
    accept.refusals position rows state = other.refusals position rows state' := by
  induction rows generalizing kept position state state' with
  | nil => rfl
  | cons row rest ih =>
    cases hc : check kept position row with
    | some failure =>
      simp only [Acceptance.refusals, follows.refuses h hc, too.refuses h' hc]
      rw [ih state h state' h' (position + 1)]
    | none =>
      obtain ⟨next, notes, admitted, hnext⟩ := follows.accepts h hc
      obtain ⟨next', notes', admitted', hnext'⟩ := too.accepts h' hc
      simp only [Acceptance.refusals, admitted, admitted']
      exact ih next hnext next' hnext' (position + 1)

/-- The first refusal is that of the first row that fails the check against all rows before it. -/
theorem Acceptance.Follows.firstOf_refusals {kept : List ρ} (state : σ) (h : Holds kept state)
    (rows : List ρ) :
    FirstOf (fun i => rows[i]?.bind (check (kept ++ rows.take i) (kept.length + i)))
      (accept.refusals kept.length rows state).head? := by
  induction rows generalizing kept state with
  | nil =>
    intro i
    rfl
  | cons row rest ih =>
    cases hc : check kept kept.length row with
    | some failure =>
      simp only [Acceptance.refusals, follows.refuses h hc, List.head?_cons]
      exact ⟨0, by simpa using hc, by simp⟩
    | none =>
      obtain ⟨next, notes, admitted, hnext⟩ := follows.accepts h hc
      have hrest := ih next hnext
      simp only [List.length_append, List.length_singleton, List.append_assoc,
        List.singleton_append, Nat.add_assoc, Nat.add_comm 1] at hrest
      simp only [Acceptance.refusals, admitted]
      exact .of_succ (by simpa using hc) (by simpa using hrest)

end

end Multimodal
