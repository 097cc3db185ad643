import Multimodal.Proofs.ByIds
import Multimodal.Proofs.Conservation
import Multimodal.Proofs.NetworkEdits

/-!
# Finding records by ids and by handles

A network is empty or comes from an import, and is then given public transport networks one after
another (`Network.Made`). In all of these the records of each kind are found under exactly the ids
that they have (`Finds`), and the answers about places agree with that.

* `Network.Made.registered`: the indexes of such a network list the ids of its records.
* `Network.Registered.findsAll`: then questions by id and by handle have matching answers.
* `Network.appends_push`: a network that is pushed changes no answer about the others.
* `Network.Made.finds_and_appends`: both together.
-/
namespace Multimodal

/-! ## Records with ids -/

/-- Records are found under exactly the ids that they have, `at?` being the record with a handle. -/
structure Finds {α : Type} (find? : RecordId → Option (Handle × α)) (at? : Handle → Option α)
    (idOf : α → RecordId) : Prop where
  found_iff : ∀ id handle a, find? id = some (handle, a) ↔ at? handle = some a ∧ idOf a = id
  /-- One and only one id leads to the handle of a record. -/
  once : ∀ handle a, at? handle = some a → ∃! id, (find? id).map (·.1) = some handle
  /-- No two records have one id. -/
  alone : ∀ handle other a b, at? handle = some a → at? other = some b → idOf a = idOf b →
    handle = other

section
variable {α : Type} {find? : RecordId → Option (Handle × α)} {at? : Handle → Option α}
  {idOf : α → RecordId}

/-- The first part of `Finds` implies the others. -/
theorem Finds.of_found_iff
    (h : ∀ id handle a, find? id = some (handle, a) ↔ at? handle = some a ∧ idOf a = id) :
    Finds find? at? idOf where
  found_iff := h
  once := by
    intro handle a ha
    refine ⟨idOf a, ?_, ?_⟩
    · simp [(h (idOf a) handle a).mpr ⟨ha, rfl⟩]
    · intro id hid
      obtain ⟨⟨_, b⟩, hfound, rfl⟩ := Option.map_eq_some_iff.mp hid
      obtain ⟨hb, rfl⟩ := (h id _ b).mp hfound
      rw [Option.some.inj (ha.symm.trans hb)]
  alone := by
    intro handle other a b ha hb hid
    have hfirst := (h (idOf a) handle a).mpr ⟨ha, rfl⟩
    have hsecond := (h (idOf a) other b).mpr ⟨hb, hid.symm⟩
    exact congrArg (·.1) (Option.some.inj (hfirst.symm.trans hsecond))

/-- An index that maps the id of each record to its handle finds the records. -/
theorem Finds.of_index {index : RecordId → Option Handle}
    (h : ∀ id handle, index id = some handle ↔ (at? handle).map idOf = some id)
    (hfind : ∀ id, find? id =
      (index id).bind fun handle => (at? handle).map fun a => (handle, a)) :
    Finds find? at? idOf := by
  apply Finds.of_found_iff
  intro id handle a
  simp only [hfind, Option.bind_eq_some_iff, h, Option.map_eq_some_iff, Prod.mk.injEq]
  constructor
  · rintro ⟨_, ⟨b, hb, hid⟩, c, hc, rfl, rfl⟩
    obtain rfl := Option.some.inj (hb.symm.trans hc)
    exact ⟨hb, hid⟩
  · rintro ⟨ha, hid⟩
    exact ⟨handle, ⟨a, ha, hid⟩, a, ha, rfl, rfl⟩

/-- An id leads to the handles where it stands. -/
theorem Finds.handle_iff (h : Finds find? at? idOf) (id : RecordId) (handle : Handle) :
    (find? id).map (·.1) = some handle ↔ (at? handle).map idOf = some id := by
  simp only [Option.map_eq_some_iff, ← h.found_iff]
  constructor
  · rintro ⟨⟨_, a⟩, hfound, rfl⟩
    exact ⟨a, hfound⟩
  · rintro ⟨a, hfound⟩
    exact ⟨(handle, a), hfound, rfl⟩

theorem Finds.isSome_iff (h : Finds find? at? idOf) (id : RecordId) :
    (find? id).isSome = true ↔ ∃ handle, (at? handle).map idOf = some id := by
  simp only [← h.handle_iff, ← Option.isSome_iff_exists, Option.isSome_map]

end

/-! ## Networks whose indexes are right -/

/-- A network that holds rows finds them by their ids. -/
theorem TransitNetwork.Holds.registered {sections : List RecordId} {rows : TransitRows}
    {t : TransitNetwork} (h : t.Holds sections rows) : t.Registered := by
  intro id handle
  rw [TransitNetwork.find?, h.stopIndex.get?_eq_some, ← h.stopIdAt?_eq]
  rfl

namespace Network

/-- The index of each kind of records finds exactly their ids, each at the handle of its record. -/
structure Registered (n : Network) : Prop where
  nodes : ∀ id handle, n.nodeIndex.get? id = some handle ↔ n.nodeIdAt? handle = some id
  sections : ∀ id handle, n.sectionIndex.get? id = some handle ↔ n.sectionIdAt? handle = some id
  stops : ∀ (place : Nat) (t : TransitNetwork), n.transit[place]? = some t → t.Registered

/-- The networks that come about: the empty one, that of any successful import, and each of these
with a public transport network pushed that any calls have built. -/
inductive Made : Network → Prop where
  | empty : Made empty
  | imported {source : RowSource} {options : ImportOptions} {n : Network} :
    (importNetwork source options).outcome = .ok n → Made n
  | push {n : Network} (id : RecordId) (name : String) (edits : List TransitNetwork.Edit) :
    Made n → Made (n.push ((TransitNetwork.empty id name).edited edits)).1

theorem registered_empty : empty.Registered where
  nodes := by simp [empty, nodeIdAt?, Digraph.vertex?]
  sections := by simp [empty, sectionIdAt?, Digraph.arc?]
  stops := by simp [empty]

theorem HoldsRoads.registered {nodes : List NodeRow} {sections : List SectionRow} {n : Network}
    (h : n.HoldsRoads nodes sections)
    (hstops : ∀ (place : Nat) (t : TransitNetwork), n.transit[place]? = some t → t.Registered) :
    n.Registered where
  nodes := by
    intro id handle
    rw [h.nodeIndex.get?_eq_some, h.nodeIdAt?_eq]
  sections := by
    intro id handle
    rw [h.sectionIndex.get?_eq_some, h.sectionIdAt?_eq]
  stops := hstops

theorem registered_imported (rows : MemoryRows) (linking : StationLinking) :
    (rows.imported linking).Registered := by
  refine (rows.holdsRoads_imported linking).registered fun place t ht => ?_
  rw [rows.transit_imported, Option.map_eq_some_iff] at ht
  obtain ⟨given, -, rfl⟩ := ht
  exact (holds_importedTransit rows.holdsRoads_roads.sectionIndex linking given).registered

variable {n : Network}

theorem transit_push (n : Network) (t : TransitNetwork) (place : Nat) :
    (n.push t).1.transit[place]? = if place = n.transit.size then some t else n.transit[place]? :=
  Array.getElem?_push

theorem Registered.push (h : n.Registered) {t : TransitNetwork} (ht : t.Registered) :
    (n.push t).1.Registered where
  nodes := h.nodes
  sections := h.sections
  stops := by
    intro place other hother
    rw [transit_push] at hother
    split at hother
    · exact Option.some.inj hother ▸ ht
    · exact h.stops place other hother

theorem Made.registered (h : n.Made) : n.Registered := by
  induction h with
  | empty => exact registered_empty
  | imported hok => exact RowSource.eq_imported hok ▸ registered_imported _ _
  | push id name edits _ ih =>
    exact ih.push ((TransitNetwork.registered_empty id name).edited edits)

/-! ## Questions by id and by handle -/

def sectionAt? (n : Network) (handle : Handle) : Option RoadSection :=
  (n.road.arc? handle).map (·.label)

/-- Questions by id and by handle have matching answers for every kind of records, also where a
place is asked for, and a place where nothing is has no id and no name. -/
structure FindsAll (n : Network) : Prop where
  nodes : Finds n.node? n.road.vertex? (·.id)
  sections : Finds n.section? n.sectionAt? (·.id)
  stops : ∀ place, Finds (n.stop? place) (n.stopAt? place) (·.id)
  nodeId : ∀ (id : RecordId) (handle : UInt32),
    (n.node? id).map (·.1) = some handle.toNat ↔ n.vertexId? (.road handle) = some id
  stopId : ∀ (place : UInt64) (id : RecordId) (handle : UInt32),
    (n.stop? place.toNat id).map (·.1) = some handle.toNat ↔
      n.vertexId? (.transit place handle) = some id
  stopName : ∀ (place : UInt64) (id : RecordId) (handle : UInt32) (stop : Stop),
    n.stop? place.toNat id = some (handle.toNat, stop) →
      n.vertexName? (.transit place handle) = some stop.name
  foreignNode : ∀ handle : UInt32, n.road.order ≤ handle.toNat →
    n.vertexId? (.road handle) = none ∧ n.vertexName? (.road handle) = none
  foreignStop : ∀ (place : UInt64) (handle : UInt32),
    (∀ t, n.transit[place.toNat]? = some t → t.stopCount ≤ handle.toNat) →
      n.vertexId? (.transit place handle) = none ∧ n.vertexName? (.transit place handle) = none

theorem Registered.finds_node? (h : n.Registered) : Finds n.node? n.road.vertex? (·.id) := by
  refine Finds.of_index h.nodes fun id => ?_
  unfold node?
  cases n.nodeIndex.get? id with
  | none => rfl
  | some handle => cases hnode : n.road.vertex? handle <;> simp [hnode]

theorem Registered.finds_section? (h : n.Registered) :
    Finds n.section? n.sectionAt? (·.id) := by
  have hindex : ∀ id handle, n.sectionIndex.get? id = some handle ↔
      (n.sectionAt? handle).map (·.id) = some id := by
    intro id handle
    rw [h.sections, sectionIdAt?, sectionAt?, Option.map_map]
    rfl
  refine Finds.of_index hindex fun id => ?_
  unfold section?
  cases n.sectionIndex.get? id with
  | none => rfl
  | some handle => cases harc : n.road.arc? handle <;> simp [sectionAt?, harc]

theorem Registered.finds_stop? (h : n.Registered) (place : Nat) :
    Finds (n.stop? place) (n.stopAt? place) (·.id) := by
  cases ht : n.transit[place]? with
  | none =>
    apply Finds.of_found_iff
    simp [stop?, stopAt?, ht]
  | some t =>
    have hat : n.stopAt? place = t.stop? := by
      funext handle
      simp [stopAt?, ht]
    rw [hat]
    refine Finds.of_index (h.stops place t ht) fun id => ?_
    simp only [stop?, ht]
    cases hfind : t.find? id with
    | none => simp [hfind]
    | some handle => cases hstop : t.stop? handle <;> simp [hfind, hstop]

theorem Registered.findsAll (h : n.Registered) : n.FindsAll where
  nodes := h.finds_node?
  sections := h.finds_section?
  stops := h.finds_stop?
  nodeId := fun id handle => h.finds_node?.handle_iff id handle.toNat
  stopId := fun place id handle => (h.finds_stop? place.toNat).handle_iff id handle.toNat
  stopName := by
    intro place id handle stop hstop
    have hat := (((h.finds_stop? place.toNat).found_iff id handle.toNat stop).mp hstop).1
    simp [vertexName?, hat]
  foreignNode := by
    intro handle hge
    have hnone := (n.road.vertex?_eq_none_iff handle.toNat).mpr hge
    simp [vertexId?, vertexName?, hnone]
  foreignStop := by
    intro place handle hforeign
    have hnone : n.stopAt? place.toNat handle.toNat = none := by
      cases ht : n.transit[place.toNat]? with
      | none => simp [stopAt?, ht]
      | some t => simpa [stopAt?, ht] using (t.stop?_eq_none_iff handle.toNat).mpr (hforeign t ht)
    simp [vertexId?, vertexName?, hnone]

/-! ## Pushing a network -/

/-- A place whose public transport network is not the one at `last`. -/
def Avoids (last : Nat) : Vertex → Prop
  | .road _ => True
  | .transit place _ => place.toNat ≠ last

/-- `next` is `n` with the public transport network `t` at `place`, behind the others. No other
answer is changed. -/
structure Appends (n : Network) (t : TransitNetwork) (next : Network) (place : Nat) : Prop where
  place_eq : place = n.transit.size
  size_eq : next.transit.size = n.transit.size + 1
  last : next.transit[place]? = some t
  earlier : ∀ other : Nat, other ≠ place → next.transit[other]? = n.transit[other]?
  road : next.road = n.road
  nodeIndex : next.nodeIndex = n.nodeIndex
  sectionIndex : next.sectionIndex = n.sectionIndex
  stats : next.stats = n.stats
  node : ∀ id, next.node? id = n.node? id
  roadSection : ∀ id, next.section? id = n.section? id
  stop : ∀ other : Nat, other ≠ place → ∀ id, next.stop? other id = n.stop? other id
  stopAt : ∀ other : Nat, other ≠ place → ∀ handle,
    next.stopAt? other handle = n.stopAt? other handle
  vertexId : ∀ vertex, Avoids place vertex → next.vertexId? vertex = n.vertexId? vertex
  vertexName : ∀ vertex, Avoids place vertex → next.vertexName? vertex = n.vertexName? vertex

theorem appends_push (n : Network) (t : TransitNetwork) :
    n.Appends t (n.push t).1 (n.push t).2 := by
  have hearlier : ∀ other : Nat, other ≠ n.transit.size →
      (n.push t).1.transit[other]? = n.transit[other]? := by
    intro other hother
    rw [transit_push, if_neg hother]
  have hstopAt : ∀ other : Nat, other ≠ n.transit.size → ∀ handle,
      (n.push t).1.stopAt? other handle = n.stopAt? other handle := by
    intro other hother handle
    rw [stopAt?, hearlier other hother, stopAt?]
  refine
    { place_eq := rfl, size_eq := Array.size_push t, last := by simp [push]
      earlier := hearlier, road := rfl, nodeIndex := rfl, sectionIndex := rfl, stats := rfl
      node := fun _ => rfl, roadSection := fun _ => rfl, stop := ?_, stopAt := hstopAt
      vertexId := ?_, vertexName := ?_ }
  · intro other hother id
    rw [stop?, hearlier other hother, stop?]
  · rintro (node | ⟨place, stop⟩) havoids
    · rfl
    · rw [vertexId?, hstopAt _ havoids, vertexId?]
  · rintro (node | ⟨place, stop⟩) havoids
    · rfl
    · rw [vertexName?, hstopAt _ havoids, vertexName?]

/-! ## The result -/

/-- However a network came about, questions by id and by handle have matching answers, and another
public transport network takes the next place and changes no answer about the others. -/
theorem Made.finds_and_appends (h : n.Made) :
    n.FindsAll ∧ ∀ t, n.Appends t (n.push t).1 (n.push t).2 :=
  ⟨h.registered.findsAll, n.appends_push⟩

def withFerry : Network :=
  ((detour.imported .singlePass).push ((TransitNetwork.empty 3 "ferry").edited platformEdits)).1

theorem Made.finds_and_appends_withFerry :
    withFerry.Made ∧ withFerry.FindsAll ∧ withFerry.transit.size = 3 ∧
      (withFerry.stop? 2 101).map (·.1) = some 1 ∧ withFerry.vertexId? (.transit 2 1) = some 101 ∧
      withFerry.stop? 1 101 = none ∧ withFerry.vertexId? (.transit 3 0) = none := by
  have hmade : withFerry.Made :=
    .push 3 "ferry" platformEdits (.imported (outcome_importNetwork_skip detour .singlePass))
  have hfinds := (Made.finds_and_appends hmade).1
  refine ⟨hmade, hfinds, by decide +kernel, by decide +kernel,
    (hfinds.stopId 2 101 1).mp (by decide +kernel), by decide +kernel, by decide +kernel⟩

end Network

end Multimodal
