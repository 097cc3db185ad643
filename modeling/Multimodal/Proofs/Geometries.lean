import Multimodal.Itinerary.Basic
import Multimodal.Proofs.GraphEdits

/-!
# Filling in geometries

The geometries that are missing in an itinerary are looked up in one pass over its legs and written
in another, which goes by the numbers of the legs (`Itinerary.fillGeometries`). The two passes stay
in step: every leg without a geometry gets what the lookup answered for it (`Answers`), and nothing
else changes (`Fills`). The first lookup that fails ends the call before anything is written.

* `findGeometries_eq`: what the first pass finds, or the failure that ends it.
* `foldl_setGeometry`: what the second pass writes.
* `carriesOut_fillProgram`: the same call in place leaves the itinerary as it was if it fails.
* `fillGeometries_recording`: the legs a lookup is asked about.
* `fillGeometries_pointwise`: all that a call does.
-/
namespace Multimodal.Itinerary

variable {V : Type} (lookup : Leg V → Except Failure (Option (List UInt8)))

/-! ## What a call does to a leg -/

/-- What becomes of a leg: one with a geometry stays as it is, and any other gets what the lookup
answers for it, which may be nothing. -/
def Answers (leg next : Leg V) : Prop :=
  match leg.geometry with
  | some _ => next = leg
  | none => ∃ answer, lookup leg = .ok answer ∧ next = { leg with geometry := answer }

/-- An itinerary with the geometries that a lookup has for it, `filled` legs having got one. -/
structure Fills (it next : Itinerary V) (filled : Nat) : Prop where
  legs : List.Forall₂ (Answers lookup) it.legs next.legs
  start : next.start = it.start
  trace : next.trace = it.trace
  filled : filled = (it.legs.zip next.legs).countP fun (leg, next) =>
    leg.geometry.isNone && next.geometry.isSome

/-- A lookup fails for the first time for a leg without a geometry. -/
def FailsFirst (legs : List (Leg V)) (failure : Failure) : Prop :=
  ∃ before leg after, legs = before ++ leg :: after ∧
    (leg.geometry = none ∧ lookup leg = .error failure) ∧
    ∀ earlier ∈ before, earlier.geometry = none → ∃ answer, lookup earlier = .ok answer

def failureFor? (leg : Leg V) : Option Failure :=
  match leg.geometry, lookup leg with
  | none, .error failure => some failure
  | _, _ => none

/-- The geometry that the lookup finds for a leg without one. -/
def foundFor? (leg : Leg V) : Option (List UInt8) :=
  match leg.geometry, lookup leg with
  | none, .ok answer => answer
  | _, _ => none

def filledLeg (leg : Leg V) : Leg V :=
  match foundFor? lookup leg with
  | some geometry => { leg with geometry := some geometry }
  | none => leg

/-- The geometries that are found for legs without one, each with the number of its leg. -/
def foundFrom (index : Nat) (legs : List (Leg V)) : List (Nat × List UInt8) :=
  (legs.zipIdx index).filterMap fun (leg, i) => (foundFor? lookup leg).map (i, ·)

variable {lookup} {leg next : Leg V} {legs : List (Leg V)} {it : Itinerary V}

theorem failureFor?_eq_some_iff {failure : Failure} :
    failureFor? lookup leg = some failure ↔
      leg.geometry = none ∧ lookup leg = .error failure := by
  unfold failureFor?
  split
  · rename_i hgeometry hlookup
    simp [hgeometry, hlookup]
  · rename_i hother
    simp only [reduceCtorEq, false_iff, not_and]
    exact fun hgeometry hlookup => hother _ hgeometry hlookup

theorem failureFor?_eq_none_iff :
    failureFor? lookup leg = none ↔ (leg.geometry = none → ∃ answer, lookup leg = .ok answer) := by
  unfold failureFor?
  split
  · rename_i hgeometry hlookup
    simp [hgeometry, hlookup]
  · rename_i hother
    simp only [true_iff]
    intro hgeometry
    cases hlookup : lookup leg with
    | error failure => exact absurd hlookup (hother _ hgeometry)
    | ok answer => exact ⟨answer, rfl⟩

theorem foundFrom_cons (index : Nat) (leg : Leg V) (rest : List (Leg V)) :
    foundFrom lookup index (leg :: rest) =
      ((foundFor? lookup leg).map (index, ·)).toList ++ foundFrom lookup (index + 1) rest := by
  rw [foundFrom, foundFrom, List.zipIdx_cons, List.filterMap_cons]
  cases h : foundFor? lookup leg with
  | none => simp [h]
  | some geometry => simp [h]

theorem length_foundFrom (index : Nat) (legs : List (Leg V)) :
    (foundFrom lookup index legs).length =
      legs.countP fun leg => (foundFor? lookup leg).isSome := by
  induction legs generalizing index with
  | nil => rfl
  | cons leg rest ih =>
    rw [foundFrom_cons, List.length_append, ih, List.countP_cons]
    cases foundFor? lookup leg with
    | none => simp
    | some geometry => simp [Nat.add_comm]

/-! ## Looking up -/

/-- The first pass ends with the first failure; otherwise it finds all geometries, each with the
number of its leg. -/
theorem findGeometries_eq (index : Nat) (legs : List (Leg V)) :
    findGeometries lookup index legs =
      match legs.findSome? (failureFor? lookup) with
      | some failure => .error failure
      | none => .ok (foundFrom lookup index legs) := by
  induction legs generalizing index with
  | nil => rfl
  | cons leg rest ih =>
    rw [findGeometries, List.findSome?_cons, foundFrom_cons]
    cases hgeometry : leg.geometry with
    | some octets => simp [failureFor?, foundFor?, hgeometry, ih]
    | none =>
      cases hlookup : lookup leg with
      | error failure => simp [failureFor?, hgeometry, hlookup, bind, Except.bind]
      | ok answer =>
        cases answer with
        | none => simp [failureFor?, foundFor?, hgeometry, hlookup, ih, bind, Except.bind]
        | some octets =>
          simp only [failureFor?, foundFor?, hgeometry, hlookup, ih, bind, Except.bind]
          cases rest.findSome? (failureFor? lookup) with
          | some failure => rfl
          | none => rfl

/-! ## Writing -/

theorem modify_append_cons {α : Type} (f : α → α) (before : List α) (x : α) (after : List α) :
    (before ++ x :: after).modify before.length f = before ++ f x :: after := by
  induction before with
  | nil => rfl
  | cons _ _ ih => simpa using ih

theorem foldl_setGeometry (it : Itinerary V) (before legs : List (Leg V)) :
    (foundFrom lookup before.length legs).foldl
        (fun it (index, geometry) => it.setGeometry index geometry)
        { it with legs := before ++ legs } =
      { it with legs := before ++ legs.map (filledLeg lookup) } := by
  -- the legs before are written, and the numbers of the others still lead to them
  induction legs generalizing before with
  | nil => rfl
  | cons leg rest ih =>
    have hrest := ih (before ++ [filledLeg lookup leg])
    simp only [List.length_append, List.length_singleton, List.append_assoc,
      List.singleton_append] at hrest
    rw [foundFrom_cons, List.map_cons, ← hrest, List.foldl_append]
    congr 1
    unfold filledLeg
    cases foundFor? lookup leg with
    | none => rfl
    | some geometry =>
      simp only [Option.map_some, Option.toList_some, List.foldl_cons, List.foldl_nil, setGeometry,
        modifyLeg, modify_append_cons]

/-- A call ends with the first failure; otherwise it fills in all geometries that are found. -/
theorem fillGeometries_eq (it : Itinerary V) :
    it.fillGeometries lookup =
      match it.legs.findSome? (failureFor? lookup) with
      | some failure => .error failure
      | none => .ok (it.mapLegs (filledLeg lookup),
          it.legs.countP fun leg => (foundFor? lookup leg).isSome) := by
  rw [fillGeometries, findGeometries_eq]
  cases it.legs.findSome? (failureFor? lookup) with
  | some failure => rfl
  | none =>
    have hwritten := @foldl_setGeometry V lookup it [] it.legs
    simp only [List.length_nil, List.nil_append] at hwritten
    simp only [bind, Except.bind, pure, Except.pure, hwritten, length_foundFrom]
    rfl

/-! ## What a call comes to -/

theorem findSome?_failureFor?_eq_some_iff {failure : Failure} :
    legs.findSome? (failureFor? lookup) = some failure ↔ FailsFirst lookup legs failure := by
  simp only [List.findSome?_eq_some_iff, FailsFirst, failureFor?_eq_some_iff,
    failureFor?_eq_none_iff]

theorem answers_iff :
    Answers lookup leg next ↔ failureFor? lookup leg = none ∧ next = filledLeg lookup leg := by
  unfold Answers failureFor? filledLeg foundFor?
  cases hgeometry : leg.geometry with
  | some octets => simp
  | none =>
    cases hlookup : lookup leg with
    | error failure => simp
    | ok answer =>
      cases answer with
      | some octets => simp
      | none => simp [← hgeometry]

theorem forall₂_answers_iff {filled : List (Leg V)} :
    List.Forall₂ (Answers lookup) legs filled ↔
      legs.findSome? (failureFor? lookup) = none ∧ filled = legs.map (filledLeg lookup) := by
  induction legs generalizing filled with
  | nil => simp
  | cons leg rest ih =>
    simp only [List.forall₂_cons_left_iff, answers_iff, ih, List.findSome?_eq_none_iff,
      List.forall_mem_cons, List.map_cons]
    constructor
    · rintro ⟨_, _, ⟨hleg, rfl⟩, ⟨hrest, rfl⟩, rfl⟩
      exact ⟨⟨hleg, hrest⟩, rfl⟩
    · rintro ⟨⟨hleg, hrest⟩, rfl⟩
      exact ⟨_, _, ⟨hleg, rfl⟩, ⟨hrest, rfl⟩, rfl⟩

/-- A leg got a geometry if one was found for it. -/
theorem isNone_and_isSome_filledLeg (leg : Leg V) :
    (leg.geometry.isNone && (filledLeg lookup leg).geometry.isSome) =
      (foundFor? lookup leg).isSome := by
  unfold filledLeg foundFor?
  cases hgeometry : leg.geometry with
  | some octets => simp [hgeometry]
  | none =>
    cases hlookup : lookup leg with
    | error failure => simp [hgeometry]
    | ok answer => cases answer <;> simp [hgeometry]

theorem countP_zip_filledLeg (legs : List (Leg V)) :
    ((legs.zip (legs.map (filledLeg lookup))).countP fun (leg, next) =>
        leg.geometry.isNone && next.geometry.isSome) =
      legs.countP fun leg => (foundFor? lookup leg).isSome := by
  rw [← List.map_prod_left_eq_zip, List.countP_map]
  simp only [Function.comp_def, isNone_and_isSome_filledLeg]

variable {next : Itinerary V} {filled : Nat} {failure : Failure}

theorem fillGeometries_eq_error_iff :
    it.fillGeometries lookup = .error failure ↔ FailsFirst lookup it.legs failure := by
  rw [← findSome?_failureFor?_eq_some_iff, fillGeometries_eq]
  cases it.legs.findSome? (failureFor? lookup) with
  | some other => simp
  | none => simp

theorem fillGeometries_eq_ok_iff :
    it.fillGeometries lookup = .ok (next, filled) ↔ Fills lookup it next filled := by
  rw [fillGeometries_eq]
  constructor
  · intro h
    cases hfirst : it.legs.findSome? (failureFor? lookup) with
    | some failure => simp [hfirst] at h
    | none =>
      simp only [hfirst, Except.ok.injEq, Prod.mk.injEq] at h
      obtain ⟨rfl, rfl⟩ := h
      exact ⟨forall₂_answers_iff.mpr ⟨hfirst, rfl⟩, rfl, rfl, (countP_zip_filledLeg _).symm⟩
  · rintro ⟨hlegs, hstart, htrace, hcount⟩
    obtain ⟨hfirst, hnext⟩ := forall₂_answers_iff.mp hlegs
    obtain ⟨nextLegs, nextStart, nextTrace⟩ := next
    simp only at hstart htrace hnext hcount
    subst hstart htrace hnext hcount
    simp only [hfirst, mapLegs, countP_zip_filledLeg]

/-- A leg that the lookup answered for keeps what it got when the lookup is asked again. -/
theorem Answers.again {leg next : Leg V} (h : Answers lookup leg next) :
    Answers lookup next next := by
  unfold Answers at h
  split at h
  · rename_i octets hgeometry
    subst h
    simp [Answers, hgeometry]
  · rename_i hgeometry
    obtain ⟨answer, hlookup, rfl⟩ := h
    cases answer with
    | some octets => simp [Answers]
    | none => simpa [Answers, ← hgeometry] using hlookup

/-- A filled itinerary stays as it is when it is filled in again. -/
theorem Fills.again (h : Fills lookup it next filled) : Fills lookup next next 0 where
  legs := by
    refine List.forall₂_same.mpr ?_
    exact forall_mem_of_forall₂ (P := fun _ => True) (fun _ _ hleg _ => hleg.again) h.legs
      fun _ _ => trivial
  start := rfl
  trace := rfl
  filled := by
    rw [List.zip, List.zipWith_self, List.countP_map, eq_comm, List.countP_eq_zero]
    intro leg _
    cases hgeometry : leg.geometry <;> simp [hgeometry]

/-! ## The same call in place -/

section
variable (lookup)

/-- One turn of the loop that looks up geometries. -/
def lookUpOne (found : List (Nat × List UInt8)) (entry : Leg V × Nat) :
    EStateM Failure (Itinerary V) (List (Nat × List UInt8)) := do
  if entry.1.geometry.isNone then
    match ← ofExcept (lookup entry.1) with
    | some geometry => return found ++ [(entry.2, geometry)]
    | none => return found
  else return found

/-- The same call in place. All lookups are made before the first geometry is written.
mirrors `fill_geometries` -/
def fillProgram : EStateM Failure (Itinerary V) Nat := do
  let it ← get
  let found ← it.legs.zipIdx.foldlM (lookUpOne lookup) []
  found.forM fun (index, geometry) => modify fun it => it.setGeometry index geometry
  return found.length

end

theorem run_lookUpOne (found : List (Nat × List UInt8)) (leg : Leg V) (index : Nat)
    (it : Itinerary V) :
    (lookUpOne lookup found (leg, index)).run it =
      match failureFor? lookup leg with
      | some failure => .error failure it
      | none => .ok (found ++ ((foundFor? lookup leg).map (index, ·)).toList) it := by
  unfold lookUpOne failureFor? foundFor?
  cases leg.geometry with
  | some octets => simp
  | none =>
    cases lookup leg with
    | error failure => rfl
    | ok answer =>
      cases answer with
      | none => simp [ofExcept]
      | some octets => rfl

/-- The first loop finds what the first pass of a call finds, and changes nothing. -/
theorem run_lookups (found : List (Nat × List UInt8)) (legs : List (Leg V)) (index : Nat)
    (it : Itinerary V) :
    ((legs.zipIdx index).foldlM (lookUpOne lookup) found).run it =
      match legs.findSome? (failureFor? lookup) with
      | some failure => .error failure it
      | none => .ok (found ++ foundFrom lookup index legs) it := by
  induction legs generalizing found index with
  | nil => simp [foundFrom]
  | cons leg rest ih =>
    rw [List.zipIdx_cons, List.foldlM_cons, EStateM.run_bind, run_lookUpOne, List.findSome?_cons,
      foundFrom_cons]
    cases failureFor? lookup leg with
    | some failure => rfl
    | none =>
      simp only [ih, List.append_assoc]

/-- The second loop writes what it is given. -/
theorem run_writes (found : List (Nat × List UInt8)) (it : Itinerary V) :
    (found.forM fun (index, geometry) => modify fun it => it.setGeometry index geometry :
        EStateM Failure (Itinerary V) PUnit).run it =
      .ok ⟨⟩ (found.foldl (fun it (index, geometry) => it.setGeometry index geometry) it) := by
  induction found generalizing it with
  | nil => rfl
  | cons entry rest ih => exact ih _

/-- Where a lookup fails, the call in place has changed nothing yet. -/
theorem carriesOut_fillProgram : CarriesOut (fillProgram lookup) (fillGeometries lookup) := by
  intro it
  have hlooked := @run_lookups V lookup [] it.legs 0 it
  rw [fillGeometries, findGeometries_eq, fillProgram]
  simp only [EStateM.run_bind, EStateM.run_get, hlooked, List.nil_append]
  cases it.legs.findSome? (failureFor? lookup) with
  | some failure => rfl
  | none =>
    simp only [run_writes]
    rfl

/-! ## Whom the lookup is asked about -/

section
variable (lookup)

/-- A lookup that writes down the legs it is asked about. -/
def recording (leg : Leg V) : ExceptT Failure (StateM (List (Leg V))) (Option (List UInt8)) := do
  modify fun asked => asked ++ [leg]
  ofExcept (lookup leg)

/-- The first legs of a list, up to one for which the lookup fails. -/
def askedAbout : List (Leg V) → List (Leg V)
  | [] => []
  | leg :: rest =>
    match lookup leg with
    | .ok _ => leg :: askedAbout rest
    | .error _ => [leg]

end

theorem run_recording_bind {β : Type} (leg : Leg V) (asked : List (Leg V))
    (next : Option (List UInt8) → ExceptT Failure (StateM (List (Leg V))) β) :
    (recording lookup leg >>= next).run.run asked =
      match lookup leg with
      | .ok answer => (next answer).run.run (asked ++ [leg])
      | .error failure => (.error failure, asked ++ [leg]) := by
  unfold recording
  cases lookup leg <;> rfl

/-- The first pass asks about the legs without a geometry, one after another, until it fails. -/
theorem findGeometries_recording (index : Nat) (legs asked : List (Leg V)) :
    (findGeometries (recording lookup) index legs).run.run asked =
      (findGeometries lookup index legs,
        asked ++ askedAbout lookup (legs.filter fun leg => leg.geometry.isNone)) := by
  induction legs generalizing index asked with
  | nil =>
    simp only [List.filter_nil, askedAbout, List.append_nil]
    rfl
  | cons leg rest ih =>
    rw [findGeometries, findGeometries]
    cases hgeometry : leg.geometry with
    | some octets => simp [hgeometry, ih]
    | none =>
      simp only [List.filter_cons, hgeometry, Option.isNone_none, if_true, askedAbout,
        run_recording_bind]
      cases lookup leg with
      | error failure => rfl
      | ok answer =>
        cases answer with
        | none => simp [ih, bind, Except.bind]
        | some octets =>
          have hrest := ih (index + 1) (asked ++ [leg])
          simp only [bind_pure_comp, ExceptT.run_map, StateT.run_map, hrest, List.append_assoc,
            List.singleton_append]
          rfl

/-- A call asks about the legs without a geometry, one after another, until a lookup fails. -/
theorem fillGeometries_recording (it : Itinerary V) :
    (it.fillGeometries (recording lookup)).run.run [] =
      (it.fillGeometries lookup,
        askedAbout lookup (it.legs.filter fun leg => leg.geometry.isNone)) := by
  have hfound := @findGeometries_recording V lookup 0 it.legs []
  rw [fillGeometries, fillGeometries]
  simp only [bind_pure_comp, ExceptT.run_map, StateT.run_map, hfound, List.nil_append]
  rfl

/-! ## The result -/

/-- A call fails exactly if a lookup fails, with the failure of the first that does, and then the
call in place has changed nothing. Otherwise every leg without a geometry got what the lookup
answers for it and nothing else changed, the call says how many legs got one, and calling again
fills in nothing more. The lookup is asked about legs without a geometry only, in their order, and
not again after it fails. -/
theorem fillGeometries_pointwise (lookup : Leg V → Except Failure (Option (List UInt8)))
    (it : Itinerary V) :
    (∀ failure, it.fillGeometries lookup = .error failure ↔ FailsFirst lookup it.legs failure) ∧
      (∀ next filled, it.fillGeometries lookup = .ok (next, filled) ↔
        Fills lookup it next filled) ∧
      (∀ next filled, it.fillGeometries lookup = .ok (next, filled) →
        next.fillGeometries lookup = .ok (next, 0)) ∧
      CarriesOut (fillProgram lookup) (fillGeometries lookup) ∧
      (it.fillGeometries (recording lookup)).run.run [] =
        (it.fillGeometries lookup,
          askedAbout lookup (it.legs.filter fun leg => leg.geometry.isNone)) := by
  refine ⟨fun failure => fillGeometries_eq_error_iff, fun next filled => fillGeometries_eq_ok_iff,
    ?_, carriesOut_fillProgram, it.fillGeometries_recording⟩
  intro next filled h
  exact fillGeometries_eq_ok_iff.mpr (fillGeometries_eq_ok_iff.mp h).again

private def plainLeg (mode : RecordId) (geometry : Option (List UInt8)) : Leg Float :=
  { Leg.new (.transfer default) mode with geometry }

/-- A lookup that knows the first mode, finds nothing for the second and fails for any other. -/
private def twoModes (leg : Leg Float) : Except Failure (Option (List UInt8)) :=
  if leg.mode = 1 then .ok (some [1, 0])
  else if leg.mode = 2 then .ok none
  else .error (.unknownId .stop leg.mode)

/-- Of three legs the first gets a geometry, the second has one and the third gets none. Two more
legs for which the lookup fails, and the call ends with the first of them. -/
theorem fillGeometries_pointwise_twoModes :
    let it : Itinerary Float :=
      ⟨[plainLeg 1 none, plainLeg 3 (some [9]), plainLeg 2 none], .epoch, none⟩
    let filled : Itinerary Float :=
      ⟨[plainLeg 1 (some [1, 0]), plainLeg 3 (some [9]), plainLeg 2 none], .epoch, none⟩
    let longer := (it.add (plainLeg 4 none)).add (plainLeg 5 none)
    Fills twoModes it filled 1 ∧ filled.fillGeometries twoModes = .ok (filled, 0) ∧
      FailsFirst twoModes longer.legs (.unknownId .stop 4) ∧
      (fillProgram twoModes).run longer = .error (.unknownId .stop 4) longer := by
  intro it filled longer
  obtain ⟨-, hfills, hagain, -⟩ := fillGeometries_pointwise twoModes it
  obtain ⟨hfails, -, -, hprogram, -⟩ := fillGeometries_pointwise twoModes longer
  have hfilled : it.fillGeometries twoModes = .ok (filled, 1) := rfl
  have hfailed : longer.fillGeometries twoModes = .error (.unknownId .stop 4) := rfl
  refine ⟨(hfills filled 1).mp hfilled, hagain filled 1 hfilled, (hfails _).mp hfailed, ?_⟩
  rw [hprogram, hfailed]

end Multimodal.Itinerary
