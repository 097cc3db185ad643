import Multimodal.Import.Directory

/-!
# Checking a configuration

A configuration is checked before an import looks into any file. Its public transport networks are
looked at in their order, and the first that cannot be imported is the one reported, because its
directory is missing or because its id is that of an earlier one.

* `Configuration.checkTransit_eq_ok_iff`, `Configuration.checkTransit_eq_error_iff`: the scan over
  the networks, from any place on.
* `Configuration.isChecked`: what is checked, what is reported and what an import does with it.
-/
namespace Multimodal

/-- What is wrong with the network of a directory, if something is. -/
def TransitDirectory.defect (isDirectory : String → Bool) (d : TransitDirectory) : Failure :=
  if isDirectory d.dir then .invalidData (.networkRepeated d.id)
  else .sourceUnavailable .stop (.networkDirectoryMissing d.id d.dir)

namespace Configuration

variable {isDirectory : String → Bool} {seen : List RecordId} {transit rest : List TransitDirectory}
  {d : TransitDirectory} {failure : Failure}

/-- The network at a place cannot be imported: its directory is missing, or its id is among those
seen or that of a network before it. -/
def IsDefective (isDirectory : String → Bool) (seen : List RecordId)
    (transit : List TransitDirectory) (i : Nat) : Prop :=
  ∃ d, transit[i]? = some d ∧
    (isDirectory d.dir = false ∨ d.id ∈ seen ∨ ∃ other ∈ transit.take i, other.id = d.id)

theorem not_isDefective_nil (i : Nat) : ¬IsDefective isDirectory seen [] i := by
  rintro ⟨d, hd, -⟩
  cases hd

theorem isDefective_zero : IsDefective isDirectory seen (d :: rest) 0 ↔
    isDirectory d.dir = false ∨ d.id ∈ seen := by
  simp [IsDefective]

theorem isDefective_succ {i : Nat} : IsDefective isDirectory seen (d :: rest) (i + 1) ↔
    IsDefective isDirectory (d.id :: seen) rest i := by
  simp only [IsDefective, List.getElem?_cons_succ, List.take_succ_cons, List.mem_cons, or_and_right,
    exists_or, exists_eq_left]
  refine exists_congr fun other => and_congr_right fun _ => or_congr_right ?_
  rw [or_left_comm, or_assoc, @eq_comm _ d.id]

/-- The scan reports a first network that cannot be imported. -/
theorem checkTransit_of_isDefective (h : IsDefective isDirectory seen (d :: rest) 0) :
    checkTransit isDirectory seen (d :: rest) = .error (d.defect isDirectory) := by
  rw [checkTransit, TransitDirectory.defect]
  cases hdir : isDirectory d.dir with
  | false => rfl
  | true =>
    have hseen : seen.contains d.id = true := by
      rw [isDefective_zero, hdir] at h
      simpa using h
    rw [hseen]
    rfl

/-- The scan goes on behind a first network that can be imported. -/
theorem checkTransit_of_not_isDefective (h : ¬IsDefective isDirectory seen (d :: rest) 0) :
    checkTransit isDirectory seen (d :: rest) = checkTransit isDirectory (d.id :: seen) rest := by
  rw [isDefective_zero, not_or, Bool.not_eq_false] at h
  have hseen : seen.contains d.id = false := by simpa using h.2
  rw [checkTransit, h.1, hseen]
  rfl

/-- The scan passes when no network is defective. -/
theorem checkTransit_eq_ok_iff : checkTransit isDirectory seen transit = .ok () ↔
    ∀ i, ¬IsDefective isDirectory seen transit i := by
  induction transit generalizing seen with
  | nil => exact ⟨fun _ => not_isDefective_nil, fun _ => rfl⟩
  | cons d rest ih =>
    by_cases h : IsDefective isDirectory seen (d :: rest) 0
    · rw [checkTransit_of_isDefective h]
      exact ⟨nofun, fun hnone => absurd h (hnone 0)⟩
    · rw [checkTransit_of_not_isDefective h, ih]
      constructor
      · rintro hrest (_ | i)
        · exact h
        · exact fun hdefect => hrest i (isDefective_succ.mp hdefect)
      · exact fun hnone i hdefect => hnone (i + 1) (isDefective_succ.mpr hdefect)

/-- Otherwise it reports the first of those that are. -/
theorem checkTransit_eq_error_iff : checkTransit isDirectory seen transit = .error failure ↔
    ∃ i d, transit[i]? = some d ∧ IsDefective isDirectory seen transit i ∧
      (∀ j < i, ¬IsDefective isDirectory seen transit j) ∧ failure = d.defect isDirectory := by
  induction transit generalizing seen with
  | nil => exact ⟨nofun, fun ⟨i, _, _, hdefect, _⟩ => absurd hdefect (not_isDefective_nil i)⟩
  | cons d rest ih =>
    by_cases h : IsDefective isDirectory seen (d :: rest) 0
    · rw [checkTransit_of_isDefective h]
      constructor
      · rintro ⟨⟩
        exact ⟨0, d, rfl, h, nofun, rfl⟩
      · rintro ⟨_ | i, other, hother, -, hfirst, rfl⟩
        · cases hother
          rfl
        · exact absurd h (hfirst 0 i.succ_pos)
    · rw [checkTransit_of_not_isDefective h, ih]
      constructor
      · rintro ⟨i, other, hother, hdefect, hfirst, rfl⟩
        refine ⟨i + 1, other, hother, isDefective_succ.mpr hdefect, ?_, rfl⟩
        rintro (_ | j) hj
        · exact h
        · exact fun hearlier => hfirst j (by omega) (isDefective_succ.mp hearlier)
      · rintro ⟨_ | i, other, hother, hdefect, hfirst, rfl⟩
        · exact absurd hdefect h
        · exact ⟨i, other, hother, isDefective_succ.mp hdefect,
            fun j hj hearlier => hfirst (j + 1) (by omega) (isDefective_succ.mpr hearlier), rfl⟩

/-- No network is defective when every directory is there and no id comes twice. -/
theorem not_isDefective_iff : (∀ i, ¬IsDefective isDirectory [] transit i) ↔
    (∀ d ∈ transit, isDirectory d.dir = true) ∧ (transit.map (·.id)).Nodup := by
  constructor
  · intro h
    refine ⟨fun d hd => ?_, List.pairwise_map.mpr (List.pairwise_iff_getElem.mpr ?_)⟩
    · obtain ⟨i, hi⟩ := List.mem_iff_getElem?.mp hd
      rw [← Bool.not_eq_false]
      exact fun hdir => h i ⟨d, hi, .inl hdir⟩
    · intro j i hj hi hlt hsame
      refine h i ⟨transit[i], List.getElem?_eq_getElem hi, .inr (.inr ⟨transit[j], ?_, hsame⟩)⟩
      exact List.mem_take_iff_getElem.mpr ⟨j, by omega, rfl⟩
  · rintro ⟨hdirs, hnodup⟩ i ⟨d, hd, hmissing | hseen | ⟨other, hother, hsame⟩⟩
    · rw [hdirs d (List.mem_of_getElem? hd)] at hmissing
      cases hmissing
    · cases hseen
    · obtain ⟨hi, rfl⟩ := List.getElem?_eq_some_iff.mp hd
      obtain ⟨j, hj, rfl⟩ := List.mem_take_iff_getElem.mp hother
      exact List.pairwise_iff_getElem.mp (List.pairwise_map.mp hnodup) j i (by omega) hi
        (by omega) hsame

/-- A configuration that can be imported: its directories are there, and no two of its networks
have one id. -/
structure IsSound (isDirectory : String → Bool) (c : Configuration) : Prop where
  road : isDirectory c.roadDir = true
  transit : ∀ d ∈ c.transit, isDirectory d.dir = true
  ids : (c.transit.map (·.id)).Nodup

/-- Why a configuration is refused: because of the road directory, or else because of the first
network that is defective. -/
inductive Refused (isDirectory : String → Bool) (c : Configuration) : Failure → Prop
  | road : isDirectory c.roadDir = false →
      Refused isDirectory c (.sourceUnavailable .roadNode (.roadDirectoryMissing c.roadDir))
  | directory (i : Nat) (d : TransitDirectory) : isDirectory c.roadDir = true →
      c.transit[i]? = some d → (∀ j < i, ¬IsDefective isDirectory [] c.transit j) →
      isDirectory d.dir = false →
      Refused isDirectory c (.sourceUnavailable .stop (.networkDirectoryMissing d.id d.dir))
  | repeated (i : Nat) (d : TransitDirectory) : isDirectory c.roadDir = true →
      c.transit[i]? = some d → (∀ j < i, ¬IsDefective isDirectory [] c.transit j) →
      isDirectory d.dir = true → (∃ other ∈ c.transit.take i, other.id = d.id) →
      Refused isDirectory c (.invalidData (.networkRepeated d.id))

variable {c : Configuration}

theorem check_eq_ok_iff : c.check isDirectory = .ok () ↔ c.IsSound isDirectory := by
  rw [check]
  cases hroad : isDirectory c.roadDir with
  | false => exact ⟨nofun, fun h => absurd (hroad.symm.trans h.road) Bool.false_ne_true⟩
  | true =>
    simp only [Bool.not_true, Bool.false_eq_true, if_false]
    rw [checkTransit_eq_ok_iff, not_isDefective_iff]
    exact ⟨fun h => ⟨hroad, h.1, h.2⟩, fun h => ⟨h.transit, h.ids⟩⟩

theorem check_of_refused (h : Refused isDirectory c failure) :
    c.check isDirectory = .error failure := by
  cases h with
  | road hroad => simp [check, hroad]
  | directory i d hroad hd hfirst hdir =>
    have hscan := checkTransit_eq_error_iff.mpr ⟨i, d, hd, ⟨d, hd, .inl hdir⟩, hfirst, rfl⟩
    simp [check, hroad, hscan, TransitDirectory.defect, hdir]
  | repeated i d hroad hd hfirst hdir hother =>
    have hscan := checkTransit_eq_error_iff.mpr
      ⟨i, d, hd, ⟨d, hd, .inr (.inr hother)⟩, hfirst, rfl⟩
    simp [check, hroad, hscan, TransitDirectory.defect, hdir]

theorem refused_of_check (h : c.check isDirectory = .error failure) :
    Refused isDirectory c failure := by
  rw [check] at h
  cases hroad : isDirectory c.roadDir with
  | false =>
    rw [hroad] at h
    cases h
    exact .road hroad
  | true =>
    simp only [hroad, Bool.not_true, Bool.false_eq_true, if_false] at h
    obtain ⟨i, d, hd, ⟨other, hother, hdefect⟩, hfirst, rfl⟩ := checkTransit_eq_error_iff.mp h
    cases hother.symm.trans hd
    rw [TransitDirectory.defect]
    cases hdir : isDirectory d.dir with
    | false => exact .directory i d hroad hd hfirst hdir
    | true =>
      rcases hdefect with hmissing | hseen | hearlier
      · rw [hdir] at hmissing
        cases hmissing
      · cases hseen
      · exact .repeated i d hroad hd hfirst hdir hearlier

structure IsChecked (storage : Storage) (c : Configuration) : Prop where
  passes : c.check storage.isDirectory = .ok () ↔ c.IsSound storage.isDirectory
  refuses : ∀ failure, c.check storage.isDirectory = .error failure ↔
    Refused storage.isDirectory c failure
  /-- What is refused is refused whatever the files hold, and nothing is announced. -/
  silent : ∀ failure, Refused storage.isDirectory c failure →
    ∀ read, c.importNetwork ⟨storage.isDirectory, read⟩ = ⟨[], .error failure⟩
  /-- What passes is announced and then imported from the tables. -/
  imports : c.IsSound storage.isDirectory →
    (c.importNetwork storage).events = .note (.importingFrom c.roadDir c.transit.length) ::
        (Multimodal.importNetwork (c.source storage) c.options).events ∧
      (c.importNetwork storage).outcome =
        (Multimodal.importNetwork (c.source storage) c.options).outcome

/-- A configuration passes if and only if the directory of the roads and that of every network are
there and the ids of the networks differ. Otherwise the import ends before any file is read and
before anything is announced: because of the directory of the roads, or else because of the first
network whose directory is missing or whose id is that of an earlier one. -/
theorem isChecked (storage : Storage) (c : Configuration) : c.IsChecked storage where
  passes := check_eq_ok_iff
  refuses _ := ⟨refused_of_check, check_of_refused⟩
  silent failure h read := by
    have houtcome : (Report.ofExcept (c.check storage.isDirectory)).outcome = .error failure :=
      check_of_refused h
    rw [importNetwork, Report.bind_of_error houtcome]
    rfl
  imports h := by
    rw [importNetwork, check_eq_ok_iff.mpr h]
    generalize Multimodal.importNetwork (c.source storage) c.options = report
    exact ⟨rfl, rfl⟩

/-- An id that comes twice is reported before a directory that is missing further on. -/
example : check (· != "tram") ⟨"roads", [⟨1, "bus", "bus"⟩, ⟨1, "ferry", "ferry"⟩,
    ⟨2, "tram", "tram"⟩], {}⟩ = .error (.invalidData (.networkRepeated 1)) := rfl

end Configuration

end Multimodal
