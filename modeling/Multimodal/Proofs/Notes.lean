import Mathlib.Data.List.Basic
import Multimodal.Proofs.Announcements

/-!
# The log of a pass

What a pass over rows writes to the log follows from what becomes of its rows: accepting one may
note something (`Acceptance.noted`), and a refused one is skipped (`Acceptance.log`). The levels of
the lines tell the two apart, as accepting a row never notes a warning.

* `notes_pass`: the log of a pass that its refusals do not end.
* `atLevel_log`: its lines, level by level.
* `noted_eq_flatMap`: notes that are told from the accepted rows alone.
* `Acceptance.Follows.append_noted`: notes that depend on the state that a row is offered to.
-/
namespace Multimodal

variable {α β ρ σ : Type}

/-! ## Lines of a level -/

def atLevel (level : Verbosity) (lines : List Note) : List Note :=
  lines.filter fun line => line.level == level

section
variable {level : Verbosity} {lines : List Note}

@[simp] theorem atLevel_nil (level : Verbosity) : atLevel level [] = [] := rfl

@[simp] theorem atLevel_append (level : Verbosity) (lines more : List Note) :
    atLevel level (lines ++ more) = atLevel level lines ++ atLevel level more :=
  List.filter_append _ _

@[simp] theorem atLevel_flatMap (level : Verbosity) (f : α → List Note) (items : List α) :
    atLevel level (items.flatMap f) = items.flatMap fun item => atLevel level (f item) :=
  List.filter_flatMap

@[simp] theorem atLevel_cons (level : Verbosity) (line : Note) (lines : List Note) :
    atLevel level (line :: lines) =
      if line.level = level then line :: atLevel level lines else atLevel level lines := by
  simp [atLevel, List.filter_cons]

theorem atLevel_eq_self (h : ∀ line ∈ lines, line.level = level) : atLevel level lines = lines :=
  List.filter_eq_self.mpr fun line hline => by simp [h line hline]

theorem atLevel_eq_nil (h : ∀ line ∈ lines, line.level ≠ level) : atLevel level lines = [] :=
  List.filter_eq_nil_iff.mpr fun line hline => by simp [h line hline]

end

theorem Report.notes_eq_heard (r : Report α) : r.notes = r.heard Event.note? := rfl

theorem Event.note?_note (line : Note) : (Event.note line).note? = some line := rfl

/-- Notes that are announced are written. -/
theorem filterMap_note (lines : List Note) :
    (lines.map Event.note).filterMap Event.note? = lines := by
  rw [List.filterMap_map]
  exact List.filterMap_some

/-! ## What a pass writes -/

namespace Acceptance

variable (accept : Acceptance ρ σ)

/-- What accepting rows notes, the refused ones left out. -/
def noted : Nat → List ρ → σ → List Note
  | _, [], _ => []
  | position, row :: rest, state =>
    match accept position row state with
    | .ok (next, notes) => notes ++ noted (position + 1) rest next
    | .error _ => noted (position + 1) rest state

/-- The log of rows: what accepting them notes, and of the refused ones that they are skipped. -/
def log (kind : RecordKind) : Nat → List ρ → σ → List Note
  | _, [], _ => []
  | position, row :: rest, state =>
    match accept position row state with
    | .ok (next, notes) => notes ++ log kind (position + 1) rest next
    | .error failure => .rowSkipped kind failure :: log kind (position + 1) rest state

/-- What accepting a row notes is told from the row alone. -/
def Notes (notesOf : ρ → List Note) : Prop :=
  ∀ position row state next notes, accept position row state = .ok (next, notes) →
    notes = notesOf row

/-- All that accepting notes is of one level. -/
def NotesAt (level : Verbosity) : Prop :=
  ∀ position row state next notes, accept position row state = .ok (next, notes) →
    ∀ line ∈ notes, line.level = level

variable {accept}

theorem Notes.notesAt {notesOf : ρ → List Note} (h : accept.Notes notesOf) {level : Verbosity}
    (hlevel : ∀ row, ∀ line ∈ notesOf row, line.level = level) : accept.NotesAt level := by
  intro position row state next notes haccepted
  rw [h _ _ _ _ _ haccepted]
  exact hlevel row

theorem notes_of_fixed (f : Nat → ρ → σ → Except Failure σ) (notesOf : ρ → List Note) :
    Notes (fun position row state => return (← f position row state, notesOf row)) notesOf := by
  intro position row state next notes h
  cases hf : f position row state with
  | error failure => simp [hf, bind, Except.bind] at h
  | ok value =>
    simp only [hf, bind, Except.bind, pure, Except.pure, Except.ok.injEq, Prod.mk.injEq] at h
    exact h.2.symm

end Acceptance

open Acceptance

section
variable {accept : Acceptance ρ σ}

/-- A pass whose refusals do not end it writes the log of its rows. -/
theorem notes_pass {policy : RowPolicy} {position : Nat} {rows : List ρ} {state : σ}
    (hpasses : policy.Passes (accept.refusals position rows state)) (kind : RecordKind)
    (tick : Nat → Event) (htick : ∀ i, (tick i).note? = none) :
    (pass policy kind tick accept position rows state).notes =
      accept.log kind position rows state := by
  induction rows generalizing position state with
  | nil => rfl
  | cons row rest ih =>
    rw [Report.notes_eq_heard, pass, log]
    cases h : accept position row state with
    | ok result =>
      rw [refusals, h] at hpasses
      have hrest := ih hpasses
      rw [Report.notes_eq_heard] at hrest
      simp only [Report.heard_announce_bind, hrest, List.filterMap_append, filterMap_note,
        List.filterMap_cons, htick, List.filterMap_nil, List.append_nil]
    | error failure =>
      obtain rfl : policy = .skip := hpasses.resolve_right (by simp [refusals, h])
      have hrest := @ih (position + 1) state (.inl rfl)
      rw [Report.notes_eq_heard] at hrest
      simp only [Report.heard_announce_bind, Report.heard_bind_pure, hrest, List.filterMap_cons,
        Event.note?_note, htick, List.filterMap_nil, List.singleton_append]

/-- The warnings of a pass are its refusals, and its other lines are what accepting rows notes. -/
theorem atLevel_log {level : Verbosity} (hnotes : accept.NotesAt level) (hlevel : level ≠ .warn)
    (kind : RecordKind) (wanted : Verbosity) (position : Nat) (rows : List ρ) (state : σ) :
    atLevel wanted (accept.log kind position rows state) =
      if wanted = .warn then (accept.refusals position rows state).map (.rowSkipped kind)
      else if wanted = level then accept.noted position rows state
      else [] := by
  induction rows generalizing position state with
  | nil => simp [log, refusals, noted]
  | cons row rest ih =>
    cases h : accept position row state with
    | error failure =>
      have hrest := ih (position + 1) state
      simp only [log, refusals, noted, h, atLevel_cons, hrest, Note.level]
      by_cases hwarn : wanted = .warn
      · simp [hwarn]
      · simp [hwarn, Ne.symm hwarn]
    | ok result =>
      have hrest := ih (position + 1) result.1
      have hrow := hnotes _ _ _ _ _ h
      simp only [log, refusals, noted, h, atLevel_append, hrest]
      by_cases hwanted : wanted = level
      · subst hwanted
        rw [atLevel_eq_self hrow]
        simp [hlevel]
      · rw [atLevel_eq_nil fun line hline => hrow line hline ▸ Ne.symm hwanted]
        simp [hwanted]

theorem noted_eq_flatMap {notesOf : ρ → List Note} (hnotes : accept.Notes notesOf)
    (position : Nat) (rows : List ρ) (state : σ) :
    accept.noted position rows state = (accept.accepted position rows state).flatMap notesOf := by
  induction rows generalizing position state with
  | nil => rfl
  | cons row rest ih =>
    cases h : accept position row state with
    | error failure => simp only [noted, accepted, h, ih (position + 1) state]
    | ok result =>
      simp only [noted, accepted, h, ih (position + 1) result.1, List.flatMap_cons,
        hnotes _ _ _ _ _ h]

theorem noted_eq_nil (hnotes : accept.Notes fun _ => []) (position : Nat) (rows : List ρ)
    (state : σ) : accept.noted position rows state = [] := by
  rw [noted_eq_flatMap hnotes]
  exact List.flatMap_eq_nil_iff.mpr fun _ _ => rfl

end

/-! ## Lines that grow along a pass -/

/-- What is noted along a pass is what lines grow by, if with each row they grow by what is noted of
it. -/
theorem Acceptance.Follows.append_noted {accept : Acceptance ρ σ}
    {check : List ρ → Nat → ρ → Option Failure} {Holds : List ρ → σ → Prop}
    (follows : accept.Follows check Holds) (lines : List ρ → σ → List Note)
    (grows : ∀ {kept position row state next notes}, Holds kept state →
      check kept position row = none → accept position row state = .ok (next, notes) →
        lines (kept ++ [row]) next = lines kept state ++ notes)
    {kept : List ρ} (state : σ) (h : Holds kept state) (position : Nat) (rows : List ρ) :
    lines kept state ++ accept.noted position rows state =
      lines (kept ++ accept.accepted position rows state) (accept.after position rows state) := by
  induction rows generalizing kept position state with
  | nil => simp [noted, accepted, Acceptance.after]
  | cons row rest ih =>
    -- what holds of the rows kept so far decides whether this one is noted at all
    cases hc : check kept position row with
    | some failure =>
      have refused := follows.refuses h hc
      simp only [noted, accepted, Acceptance.after, refused]
      exact ih state h (position + 1)
    | none =>
      obtain ⟨next, notes, admitted, hnext⟩ := follows.accepts h hc
      simp only [noted, accepted, Acceptance.after, admitted]
      rw [← List.append_assoc, ← grows h hc admitted, ih next hnext (position + 1),
        List.append_assoc, List.singleton_append]

/-! ## Nodes, sections and connections -/

theorem notes_offerNode : Network.offerNode.Notes fun _ => [] :=
  Acceptance.notes_of_fixed (fun _ row (n : Network) => n.acceptNode row) _

theorem notes_offerSection :
    Network.offerSection.Notes fun row => [.sectionAdded row.id row.nodeFrom row.nodeTo] :=
  Acceptance.notes_of_fixed (fun position row (n : Network) => n.acceptSection position row) _

theorem notes_offerConnection : TransitNetwork.offerConnection.Notes fun _ => [] :=
  Acceptance.notes_of_fixed
    (fun position row (n : TransitNetwork) => n.acceptConnection position row) _

theorem notesAt_offerNode : Network.offerNode.NotesAt .trace := notes_offerNode.notesAt (by simp)

theorem notesAt_offerSection : Network.offerSection.NotesAt .trace :=
  notes_offerSection.notesAt (by simp [Note.level])

theorem notesAt_offerConnection : TransitNetwork.offerConnection.NotesAt .trace :=
  notes_offerConnection.notesAt (by simp)

end Multimodal
