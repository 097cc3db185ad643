import Multimodal.Import.Event

/-!
# Computations that report

A report is the outcome of a computation that may fail, together with the events it announced until
then. Reports are chained like their outcomes; what was announced stays announced when a later part
fails.
-/
namespace Multimodal

/-- Events in their order, and the value or failure after them. -/
structure Report (α : Type) where
  events : List Event
  outcome : Except Failure α

namespace Report

variable {α β : Type}

/-- A report without events. -/
def ofExcept (outcome : Except Failure α) : Report α := ⟨[], outcome⟩

/-- The report that goes on, if it succeeds, with what `next` reports. -/
def bind (r : Report α) (next : α → Report β) : Report β :=
  match r.outcome with
  | .ok a => ⟨r.events ++ (next a).events, (next a).outcome⟩
  | .error failure => ⟨r.events, .error failure⟩

instance : Monad Report where
  pure a := ⟨[], .ok a⟩
  bind := bind

def announce (events : List Event) : Report Unit := ⟨events, .ok ()⟩

def log (lines : List Note) : Report Unit := announce (lines.map .note)

def fail (failure : Failure) : Report α := ⟨[], .error failure⟩

def progress (r : Report α) : List (Float32 × Bool) := r.events.filterMap Event.progress?

def notes (r : Report α) : List Note := r.events.filterMap Event.note?

/-! ## Lemmas -/

@[simp] theorem outcome_pure (a : α) : (pure a : Report α).outcome = .ok a := rfl

@[simp] theorem events_pure (a : α) : (pure a : Report α).events = [] := rfl

@[simp] theorem outcome_bind (r : Report α) (next : α → Report β) :
    (r >>= next).outcome = r.outcome.bind fun a => (next a).outcome := by
  show (r.bind next).outcome = _
  unfold bind
  cases r.outcome <;> rfl

theorem bind_of_error {r : Report α} {failure : Failure} (h : r.outcome = .error failure)
    (next : α → Report β) : r >>= next = ⟨r.events, .error failure⟩ := by
  show r.bind next = _
  unfold bind
  rw [h]

/-- After a value its continuation's events follow. -/
theorem bind_of_ok {r : Report α} {a : α} (h : r.outcome = .ok a) (next : α → Report β) :
    r >>= next = ⟨r.events ++ (next a).events, (next a).outcome⟩ := by
  show r.bind next = _
  unfold bind
  rw [h]

instance : LawfulMonad Report :=
  LawfulMonad.mk' Report
    (fun r => by
      show r.bind _ = r
      rcases r with ⟨events, failure | a⟩ <;> simp [bind])
    (fun a next => by
      show bind ⟨[], .ok a⟩ next = _
      simp [bind])
    (fun r f g => by
      show (r.bind f).bind g = r.bind fun a => (f a).bind g
      rcases r with ⟨events, failure | a⟩
      · rfl
      · simp only [bind]
        cases (f a).outcome <;> simp)

end Report

end Multimodal
