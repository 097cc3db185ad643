import Mathlib.Data.Finset.Card
import Multimodal.Proofs.GraphEdits

/-!
# Registering any ids

An index is filled by calls that register a handle under an id. They may come in any order and
repeat ids with other handles. What an index answers is told by the calls alone, through the first
call with an id (`firstHandle?`).

* `IdIndex.Registration.apply_of_taken`, `IdIndex.Registration.apply_of_new`: all that a call can
  do.
* `IdIndex.get?_registered`: what an id answers after calls.
* `IdIndex.answers_registrations`: which of the calls succeed.
* `IdIndex.registrations_write_once`: all of it, from the empty index on, with everything that an
  index can be asked.
-/
namespace Multimodal

namespace IdIndex

/-- A call that registers a handle under an id. -/
structure Registration where
  id : RecordId
  handle : Handle
  deriving DecidableEq, Repr

/-- The handle of the first call with an id. -/
def firstHandle? (calls : List Registration) (id : RecordId) : Option Handle :=
  (calls.find? (·.id == id)).map (·.handle)

variable {index : IdIndex} {calls : List Registration}

@[simp] theorem firstHandle?_nil (id : RecordId) : firstHandle? [] id = none := rfl

theorem firstHandle?_cons (call : Registration) (rest : List Registration) (id : RecordId) :
    firstHandle? (call :: rest) id =
      if call.id = id then some call.handle else firstHandle? rest id := by
  by_cases h : call.id = id <;> simp [firstHandle?, h]

theorem firstHandle?_eq_none_iff {id : RecordId} :
    firstHandle? calls id = none ↔ ∀ call ∈ calls, call.id ≠ id := by
  simp [firstHandle?]

theorem exists_firstHandle?_iff {id : RecordId} :
    (∃ handle, firstHandle? calls id = some handle) ↔ ∃ call ∈ calls, call.id = id := by
  rw [← Option.ne_none_iff_exists', ne_eq, firstHandle?_eq_none_iff]
  simp

/-! ## One call -/

namespace Registration

def apply (call : Registration) (index : IdIndex) : Except Failure (IdIndex × Unit) :=
  (index.register call.id call.handle).map fun next => (next, ())

/-- The call in place. It looks at the entry of its id, and writes where there is none.
mirrors `register` -/
def program (call : Registration) : EStateM Failure IdIndex Unit := do
  match (← get).handles[call.id]? with
  | some _ => throw (.duplicateId (← get).kind call.id)
  | none => modify fun index => { index with handles := index.handles.insert call.id call.handle }

theorem apply_of_taken {call : Registration} {taken : Handle}
    (h : index.get? call.id = some taken) :
    call.apply index = .error (.duplicateId index.kind call.id) := by
  rw [apply, register_eq, h]
  rfl

/-- Any other call succeeds, and from then on its id answers with its handle. -/
theorem apply_of_new {call : Registration} (h : index.get? call.id = none) :
    ∃ next, call.apply index = .ok (next, ()) ∧
      ∀ id, next.get? id = if id = call.id then some call.handle else index.get? id := by
  obtain ⟨next, hregister⟩ := exists_register h call.handle
  exact ⟨next, by rw [apply, hregister]; rfl, get?_register hregister⟩

theorem kind_apply {call : Registration} {next : IdIndex} {out : Unit}
    (h : call.apply index = .ok (next, out)) : next.kind = index.kind := by
  cases hregister : index.register call.id call.handle with
  | error failure => simp [apply, hregister, Except.map] at h
  | ok written =>
    simp only [apply, hregister, Except.map, Except.ok.injEq, Prod.mk.injEq] at h
    exact h.1 ▸ kind_register hregister

theorem carriesOut (call : Registration) : CarriesOut call.program call.apply := by
  intro index
  rw [apply, register_eq, program, get?]
  cases h : index.handles[call.id]? <;> simp [h, Except.map]

end Registration

/-! ## Any calls -/

def registered (index : IdIndex) (calls : List Registration) : IdIndex :=
  afterCalls Registration.apply calls index

theorem kind_registered (index : IdIndex) (calls : List Registration) :
    (index.registered calls).kind = index.kind := by
  refine afterCalls_of_keeps (P := fun next : IdIndex => next.kind = index.kind) ?_ rfl
  exact fun _ _ _ _ _ happly hkind => (Registration.kind_apply happly).trans hkind

/-- What an id answered before stays, and otherwise it answers with the handle of the first call. -/
theorem get?_registered (index : IdIndex) (calls : List Registration) (id : RecordId) :
    (index.registered calls).get? id = (index.get? id).or (firstHandle? calls id) := by
  induction calls generalizing index with
  | nil => simp [registered, afterCalls]
  | cons call rest ih =>
    simp only [registered] at ih
    rw [registered, afterCalls, firstHandle?_cons]
    cases h : index.get? call.id with
    | some taken =>
      simp only [Registration.apply_of_taken h, ih]
      by_cases hid : call.id = id
      · simp [← hid, h]
      · rw [if_neg hid]
    | none =>
      obtain ⟨next, happly, hget⟩ := Registration.apply_of_new h
      simp only [happly, ih, hget]
      by_cases hid : call.id = id
      · simp [← hid, h]
      · rw [if_neg hid, if_neg (Ne.symm hid)]

theorem get?_registered_empty (kind : RecordKind) (calls : List Registration) (id : RecordId) :
    ((empty kind).registered calls).get? id = firstHandle? calls id := by
  rw [get?_registered, get?_empty, Option.none_or]

example : ((empty .stop).registered [⟨7, 0⟩, ⟨1, 1⟩, ⟨7, 5⟩]).get? 7 = some 0 := by decide

/-- A call whose id an earlier call has is refused. -/
theorem apply_registered_of_earlier (kind : RecordKind) {call : Registration}
    (h : ∃ earlier ∈ calls, earlier.id = call.id) :
    call.apply ((empty kind).registered calls) = .error (.duplicateId kind call.id) := by
  obtain ⟨taken, htaken⟩ := exists_firstHandle?_iff.mpr h
  rw [← get?_registered_empty kind] at htaken
  rw [Registration.apply_of_taken htaken, kind_registered]
  rfl

theorem apply_registered_of_new (kind : RecordKind) {call : Registration}
    (h : ¬∃ earlier ∈ calls, earlier.id = call.id) :
    ∃ next, call.apply ((empty kind).registered calls) = .ok (next, ()) := by
  have hnone : firstHandle? calls call.id = none := firstHandle?_eq_none_iff.mpr (by simpa using h)
  rw [← get?_registered_empty kind] at hnone
  obtain ⟨next, happly, -⟩ := Registration.apply_of_new hnone
  exact ⟨next, happly⟩

theorem answers_registrations (kind : RecordKind) (calls : List Registration) :
    answers Registration.apply calls (empty kind) =
      calls.mapIdx fun place call =>
        if ∃ earlier ∈ calls.take place, earlier.id = call.id then
          .error (.duplicateId kind call.id)
        else .ok () := by
  rw [answers_eq]
  congr 1
  funext place call
  rw [← registered]
  split
  · rename_i hearlier
    rw [apply_registered_of_earlier kind hearlier]
    rfl
  · rename_i hnew
    obtain ⟨next, happly⟩ := apply_registered_of_new kind hnew
    rw [happly]
    rfl

/-! ## What an index is asked -/

/-- An index says of every id what the first call with it said, whatever it is asked. -/
structure KeepsFirst (index : IdIndex) (kind : RecordKind) (calls : List Registration) : Prop where
  get : ∀ id, index.get? id = firstHandle? calls id
  resolve : ∀ id handle, index.resolve id = .ok handle ↔ firstHandle? calls id = some handle
  unknown : ∀ id failure, index.resolve id = .error failure ↔
    failure = .unknownId kind id ∧ ∀ call ∈ calls, call.id ≠ id
  contains : ∀ id, index.contains id = (index.get? id).isSome
  /-- There are as many ids as different ones among the calls. -/
  size : index.size = (calls.map (·.id)).toFinset.card
  /-- No id is listed twice, and each with the handle of its first call. -/
  nodup : (index.toList.map (·.1)).Nodup
  entries : ∀ id handle, (id, handle) ∈ index.toList ↔ firstHandle? calls id = some handle

theorem nodup_ids (index : IdIndex) : (index.toList.map (·.1)).Nodup := by
  rw [toList, Std.ExtTreeMap.map_fst_toList_eq_keys]
  exact Std.ExtTreeMap.nodup_keys

theorem size_eq_card {ids : Finset RecordId} (h : ∀ id, id ∈ ids ↔ (index.get? id).isSome) :
    index.size = ids.card := by
  have hids : (index.toList.map (·.1)).toFinset = ids := by
    ext id
    rw [List.mem_toFinset, List.mem_map, h, Option.isSome_iff_exists]
    simp only [Prod.exists, exists_and_right, exists_eq_right, mem_toList]
  rw [← hids, List.toFinset_card_of_nodup index.nodup_ids, List.length_map, toList,
    Std.ExtTreeMap.length_toList, size]

theorem resolve_eq (index : IdIndex) (id : RecordId) :
    index.resolve id = (index.get? id).elim (.error (.unknownId index.kind id)) .ok := by
  rw [resolve]
  cases index.get? id <;> rfl

theorem keepsFirst_registered (kind : RecordKind) (calls : List Registration) :
    ((empty kind).registered calls).KeepsFirst kind calls := by
  have hget := get?_registered_empty kind calls
  have hkind : ((empty kind).registered calls).kind = kind := kind_registered _ calls
  refine ⟨hget, ?_, ?_, contains_eq_isSome _, ?_, nodup_ids _, ?_⟩
  · intro id handle
    rw [resolve_eq, hget]
    cases firstHandle? calls id <;> simp
  · intro id failure
    rw [resolve_eq, hget, hkind, ← firstHandle?_eq_none_iff]
    cases firstHandle? calls id <;> simp [eq_comm]
  · apply size_eq_card
    intro id
    rw [List.mem_toFinset, List.mem_map, hget, Option.isSome_iff_ne_none, ne_eq,
      firstHandle?_eq_none_iff]
    simp
  · intro id handle
    rw [mem_toList, hget]

/-- Calls in place, one after another from the empty index on, answer that they have registered an
id if it is the first call with the id, and otherwise that the id is taken. In the end the index
says of every id what the first call with it said. A further call with one of the ids, whatever its
handle, is refused and changes nothing. -/
theorem registrations_write_once (kind : RecordKind) (calls : List Registration) :
    let index := (empty kind).registered calls
    (∀ call : Registration, CarriesOut call.program call.apply) ∧
      (attempts Registration.program calls).run (empty kind) =
        .ok (calls.mapIdx fun place call =>
          if ∃ earlier ∈ calls.take place, earlier.id = call.id then
            .error (.duplicateId kind call.id)
          else .ok ()) index ∧
      index.KeepsFirst kind calls ∧
      ∀ call ∈ calls, ∀ handle, (Registration.program ⟨call.id, handle⟩).run index =
        .error (.duplicateId kind call.id) index := by
  intro index
  refine ⟨Registration.carriesOut, ?_, keepsFirst_registered kind calls, ?_⟩
  · rw [run_attempts Registration.carriesOut, answers_registrations]
    rfl
  · intro call hcall handle
    have hrefused : Registration.apply ⟨call.id, handle⟩ index =
        .error (.duplicateId kind call.id) :=
      apply_registered_of_earlier kind ⟨call, hcall, rfl⟩
    rw [Registration.carriesOut, hrefused]

end IdIndex

end Multimodal
