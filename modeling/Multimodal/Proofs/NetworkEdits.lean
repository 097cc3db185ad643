import Multimodal.Proofs.GraphEdits

/-!
# Editing a network

A public transport network is built by calls that add a stop, connect two stops or give a stop a
station. This module follows any sequence of calls, with any stops and handles, whether or not they
succeed.

* `TransitNetwork.Edit.apply_cases`, `TransitNetwork.Edit.apply_eq_error_iff`: all that a call can
  do.
* `TransitNetwork.consistent_edited`: calls keep a network that finds its stops by their ids and
  whose connections and stations stay inside.
* `TransitNetwork.growsBy_edited`: they leave what was there under its handle, stations aside.
* `edited_networks_consistent`: all of it for both kinds of networks, from the empty one on.
-/
namespace Multimodal

namespace TransitNetwork

def withConnection (n : TransitNetwork) (source target : Handle) : TransitNetwork :=
  { n with graph := n.graph.withArc ⟨source, target, ()⟩ }

/-- The network with a station given to one of its stops. -/
def withParent (n : TransitNetwork) (stop parent : Handle) : TransitNetwork :=
  { n with graph := n.graph.mapVertex stop fun s => { s with parent := some parent } }

/-- A call that changes a network. -/
inductive Edit where
  | addStop (stop : Stop)
  | connect (source target : Handle)
  | setParent (stop parent : Handle)
  deriving DecidableEq, Repr

/-- The call on a network. It answers with the handle of what it added, if it added something. -/
def Edit.apply : Edit → TransitNetwork → Except Failure (TransitNetwork × Option Handle)
  | .addStop stop, n => (n.addStop stop).map fun (next, handle) => (next, some handle)
  | .connect source target, n =>
    (n.connect source target).map fun (next, handle) => (next, some handle)
  | .setParent stop parent, n => (n.setParent stop parent).map fun next => (next, none)

def Edit.program : Edit → EStateM Failure TransitNetwork (Option Handle)
  | .addStop stop => do
    if (← get).stopIndex.contains stop.id then
      throw (.duplicateId .stop stop.id)
    let handle ← modifyGet fun n =>
      (n.stopCount, { n with graph := (n.graph.addVertex stop).1 })
    match (← get).stopIndex.register stop.id handle with
    | .ok stopIndex =>
      modify fun n => { n with stopIndex }
      return some handle
    | .error failure => throw failure
  | .connect source target => do
    let n ← get
    if n.stopCount ≤ source ∨ n.stopCount ≤ target then
      throw .invalidHandle
    modifyGet fun n => (some n.connectionCount, n.withConnection source target)
  | .setParent stop parent => do
    if stop = parent ∨ ((← get).stop? parent).isNone then
      throw .invalidHandle
    if ((← get).stop? stop).isNone then
      throw .invalidHandle
    modify fun n => n.withParent stop parent
    return none

def edited (n : TransitNetwork) (edits : List Edit) : TransitNetwork :=
  afterCalls Edit.apply edits n

variable {n next last : TransitNetwork} {edit : Edit} {handle : Handle} {out : Option Handle}

theorem addStop_of_taken {stop : Stop} {taken : Handle} (h : n.find? stop.id = some taken) :
    n.addStop stop = .error (.duplicateId .stop stop.id) := by
  have hcontains : n.stopIndex.contains stop.id = true := by
    rw [IdIndex.contains_eq_isSome, ← find?, h]
    rfl
  rw [addStop, if_pos hcontains]

/-- The id of any other stop can be registered, once the stop is in the graph. -/
theorem addStop_of_new {stop : Stop} (h : n.find? stop.id = none) :
    ∃ stopIndex, n.stopIndex.register stop.id n.stopCount = .ok stopIndex ∧
      n.addStop stop =
        .ok ({ n with graph := (n.graph.addVertex stop).1, stopIndex }, n.stopCount) := by
  obtain ⟨stopIndex, hregister⟩ := IdIndex.exists_register h n.stopCount
  refine ⟨stopIndex, hregister, ?_⟩
  have hnew : ¬(n.stopIndex.get? stop.id).isSome = true := by
    rw [← find?, h]
    simp
  rw [addStop, IdIndex.contains_eq_isSome, if_neg hnew]
  simp only [stopCount] at hregister
  simp [Digraph.addVertex, hregister, bind, Except.bind, pure, Except.pure, stopCount]

theorem addStop_eq_ok {stop : Stop} (h : n.addStop stop = .ok (next, handle)) :
    n.find? stop.id = none ∧ handle = n.stopCount ∧
      next.graph = (n.graph.addVertex stop).1 ∧
      ∀ id, next.find? id = if id = stop.id then some n.stopCount else n.find? id := by
  cases hfind : n.find? stop.id with
  | some taken =>
    rw [addStop_of_taken hfind] at h
    cases h
  | none =>
    obtain ⟨stopIndex, hregister, hadd⟩ := addStop_of_new hfind
    rw [hadd, Except.ok.injEq, Prod.mk.injEq] at h
    obtain ⟨rfl, rfl⟩ := h
    exact ⟨rfl, rfl, rfl, IdIndex.get?_register hregister⟩

theorem stop?_eq_none_iff (n : TransitNetwork) (handle : Handle) :
    n.stop? handle = none ↔ n.stopCount ≤ handle :=
  n.graph.vertex?_eq_none_iff handle

theorem stop?_withParent (n : TransitNetwork) (stop parent handle : Handle) :
    (n.withParent stop parent).stop? handle =
      if handle = stop then (n.stop? handle).map fun s => { s with parent := some parent }
      else n.stop? handle :=
  n.graph.vertex?_mapVertex stop _ handle

theorem stopCount_withParent (n : TransitNetwork) (stop parent : Handle) :
    (n.withParent stop parent).stopCount = n.stopCount :=
  n.graph.order_mapVertex stop _

theorem connect_eq (n : TransitNetwork) (source target : Handle) :
    n.connect source target =
      if n.stop? source = none ∨ n.stop? target = none then .error .invalidHandle
      else .ok (n.withConnection source target, n.connectionCount) := by
  simp only [connect, Digraph.addArc_eq, stop?]
  by_cases hforeign : n.graph.vertex? source = none ∨ n.graph.vertex? target = none
  · simp [hforeign, bind, Except.bind]
  · simp [hforeign, bind, Except.bind, pure, Except.pure, connectionCount, withConnection]

theorem setParent_eq (n : TransitNetwork) (stop parent : Handle) :
    n.setParent stop parent =
      if stop = parent ∨ n.stop? parent = none ∨ n.stop? stop = none then .error .invalidHandle
      else .ok (n.withParent stop parent) := by
  have hexist : (stop ≠ parent ∧ parent < n.stopCount ∧ stop < n.stopCount) ↔
      ¬(stop = parent ∨ n.stop? parent = none ∨ n.stop? stop = none) := by
    simp only [stop?_eq_none_iff, not_or, Nat.not_le, ne_eq]
  simp only [setParent, hexist, ite_not, withParent]

theorem connect_eq_ok {source target : Handle} (h : n.connect source target = .ok (next, handle)) :
    (source < n.stopCount ∧ target < n.stopCount) ∧ handle = n.connectionCount ∧
      next = n.withConnection source target := by
  rw [connect_eq] at h
  split at h
  · cases h
  · rename_i hends
    simp only [stop?_eq_none_iff, not_or, Nat.not_le] at hends
    rw [Except.ok.injEq, Prod.mk.injEq] at h
    exact ⟨hends, h.2.symm, h.1.symm⟩

theorem setParent_eq_ok {stop parent : Handle} (h : n.setParent stop parent = .ok next) :
    (stop ≠ parent ∧ parent < n.stopCount ∧ stop < n.stopCount) ∧
      next = n.withParent stop parent := by
  unfold setParent at h
  split at h
  · rename_i hboth
    exact ⟨hboth, (Except.ok.inj h).symm⟩
  · cases h

/-- All that a call on a network can do. -/
theorem Edit.apply_cases (h : edit.apply n = .ok (next, out)) :
    (∃ stop, edit = .addStop stop ∧ n.find? stop.id = none ∧ out = some n.stopCount ∧
      next.graph = (n.graph.addVertex stop).1 ∧
      ∀ id, next.find? id = if id = stop.id then some n.stopCount else n.find? id) ∨
    (∃ source target, edit = .connect source target ∧
      (source < n.stopCount ∧ target < n.stopCount) ∧ out = some n.connectionCount ∧
      next = n.withConnection source target) ∨
    ∃ stop parent, edit = .setParent stop parent ∧
      (stop ≠ parent ∧ parent < n.stopCount ∧ stop < n.stopCount) ∧ out = none ∧
      next = n.withParent stop parent := by
  cases edit with
  | addStop stop =>
    cases hadd : n.addStop stop with
    | error failure => simp [apply, hadd, Except.map] at h
    | ok result =>
      obtain ⟨hnew, hhandle, hgraph, hfind⟩ := addStop_eq_ok hadd
      simp only [apply, hadd, Except.map, Except.ok.injEq, Prod.mk.injEq] at h
      obtain ⟨rfl, rfl⟩ := h
      exact .inl ⟨stop, rfl, hnew, by rw [hhandle], hgraph, hfind⟩
  | connect source target =>
    cases hadd : n.connect source target with
    | error failure => simp [apply, hadd, Except.map] at h
    | ok result =>
      obtain ⟨hends, hhandle, hnext⟩ := connect_eq_ok hadd
      simp only [apply, hadd, Except.map, Except.ok.injEq, Prod.mk.injEq] at h
      obtain ⟨rfl, rfl⟩ := h
      exact .inr (.inl ⟨source, target, rfl, hends, by rw [hhandle], hnext⟩)
  | setParent stop parent =>
    cases hset : n.setParent stop parent with
    | error failure => simp [apply, hset, Except.map] at h
    | ok result =>
      obtain ⟨hboth, hnext⟩ := setParent_eq_ok hset
      simp only [apply, hset, Except.map, Except.ok.injEq, Prod.mk.injEq] at h
      obtain ⟨rfl, rfl⟩ := h
      exact .inr (.inr ⟨stop, parent, rfl, hboth, rfl, hnext⟩)

/-- When a call fails, and how: a stop whose id some stop has, a connection of which an end does not
exist, a station that does not exist or is the stop itself. -/
def Edit.RefusedBy (n : TransitNetwork) : Edit → Failure → Prop
  | .addStop stop, failure =>
    failure = .duplicateId .stop stop.id ∧ ∃ handle, (n.stop? handle).map (·.id) = some stop.id
  | .connect source target, failure =>
    failure = .invalidHandle ∧ (n.stop? source = none ∨ n.stop? target = none)
  | .setParent stop parent, failure =>
    failure = .invalidHandle ∧
      (stop = parent ∨ n.stop? parent = none ∨ n.stop? stop = none)

theorem Edit.carriesOut (edit : Edit) : CarriesOut edit.program edit.apply := by
  intro n
  cases edit with
  | addStop stop =>
    simp only [program, apply]
    have hcontains := n.stopIndex.contains_eq_isSome stop.id
    cases hfind : n.find? stop.id with
    | some taken =>
      rw [← find?, hfind] at hcontains
      simp [hcontains, addStop_of_taken hfind, Except.map]
    | none =>
      rw [← find?, hfind] at hcontains
      -- the registration is not refused, so the stop in the graph is no loose end
      obtain ⟨stopIndex, hregister, hadd⟩ := addStop_of_new hfind
      simp [hcontains, hregister, hadd, Except.map, -bind_pure_comp]
  | connect source target =>
    simp only [program, apply, connect_eq, ← stop?_eq_none_iff]
    by_cases hforeign : n.stop? source = none ∨ n.stop? target = none
    · simp [hforeign, Except.map]
    · simp [hforeign, Except.map]
  | setParent stop parent =>
    simp only [program, apply, setParent_eq, Option.isNone_iff_eq_none]
    by_cases hparent : stop = parent ∨ n.stop? parent = none
    · simp [hparent, ← or_assoc, Except.map]
    · by_cases hstop : n.stop? stop = none
      · simp [hparent, hstop, Except.map]
      · simp [hparent, hstop, Except.map, -bind_pure_comp]

/-! ### What calls keep -/

/-- The index of a network finds exactly the ids of its stops, each at the handle of its stop. -/
def Registered (n : TransitNetwork) : Prop :=
  ∀ id handle, n.find? id = some handle ↔ (n.stop? handle).map (·.id) = some id

theorem stop?_of_graph_eq {stop : Stop} (hgraph : next.graph = (n.graph.addVertex stop).1)
    (handle : Handle) :
    next.stop? handle = if handle = n.stopCount then some stop else n.stop? handle := by
  rw [stop?, hgraph]
  exact n.graph.vertex?_addVertex stop handle

theorem stop?_stopCount (n : TransitNetwork) : n.stop? n.stopCount = none :=
  (n.stop?_eq_none_iff _).mpr (Nat.le_refl _)

theorem registered_empty (id : RecordId) (name : String) : (empty id name).Registered := by
  simp [Registered, find?, stop?, empty, Digraph.vertex?]

theorem Registered.apply (h : n.Registered) (happly : edit.apply n = .ok (next, out)) :
    next.Registered := by
  intro id handle
  obtain ⟨stop, -, hnew, -, hgraph, hfind⟩ | ⟨source, target, -, -, -, rfl⟩ |
    ⟨stop, parent, -, -, -, rfl⟩ := Edit.apply_cases happly
  · rw [hfind, stop?_of_graph_eq hgraph]
    by_cases hid : id = stop.id
    · subst hid
      -- the index did not know the id, so no earlier stop has it
      have hfree : (n.stop? handle).map (·.id) ≠ some stop.id := by
        rw [ne_eq, ← h stop.id handle, hnew]
        simp
      by_cases hlast : handle = n.stopCount
      · simp [hlast]
      · simp [hlast, hfree, Ne.symm hlast]
    · rw [if_neg hid, h id handle]
      by_cases hlast : handle = n.stopCount
      · simp [hlast, stop?_stopCount, Ne.symm hid]
      · rw [if_neg hlast]
  · exact h id handle
  · rw [stop?_withParent]
    refine (h id handle).trans ?_
    split
    · rw [Option.map_map]
      rfl
    · rfl

theorem Registered.edited (h : n.Registered) (edits : List Edit) : (n.edited edits).Registered :=
  afterCalls_of_keeps (fun _ _ _ _ _ happly hstate => hstate.apply happly) h

theorem Edit.apply_eq_error_iff (h : n.Registered) (edit : Edit) (failure : Failure) :
    edit.apply n = .error failure ↔ edit.RefusedBy n failure := by
  cases edit with
  | addStop stop =>
    simp only [apply, RefusedBy, ← h stop.id]
    cases hfind : n.find? stop.id with
    | none =>
      obtain ⟨stopIndex, -, hadd⟩ := addStop_of_new hfind
      simp [hadd, Except.map]
    | some handle => simp [addStop_of_taken hfind, Except.map, @eq_comm _ failure]
  | connect source target =>
    simp only [apply, RefusedBy, connect_eq]
    by_cases hforeign : n.stop? source = none ∨ n.stop? target = none
    · simp [hforeign, @eq_comm _ failure, Except.map]
    · simp [hforeign, Except.map]
  | setParent stop parent =>
    simp only [apply, RefusedBy, setParent_eq]
    by_cases hforeign : stop = parent ∨ n.stop? parent = none ∨ n.stop? stop = none
    · simp [hforeign, @eq_comm _ failure, Except.map]
    · simp [hforeign, Except.map]

/-- The station of every stop is another stop of the network. -/
def HasStations (n : TransitNetwork) : Prop :=
  ∀ handle stop station, n.stop? handle = some stop → stop.parent = some station →
    station < n.stopCount ∧ station ≠ handle

/-- A call that adds no stop with a station. -/
def Edit.IsBare : Edit → Prop
  | .addStop stop => stop.parent = none
  | .connect _ _ | .setParent _ _ => True

theorem hasStations_empty (id : RecordId) (name : String) : (empty id name).HasStations := by
  simp [HasStations, stop?, empty, Digraph.vertex?]

theorem HasStations.apply (h : n.HasStations) (hbare : edit.IsBare)
    (happly : edit.apply n = .ok (next, out)) : next.HasStations := by
  intro handle stop station hstop hstation
  obtain ⟨added, rfl, -, -, hgraph, -⟩ | ⟨source, target, -, -, -, rfl⟩ |
    ⟨child, parent, -, ⟨hother, hparent, -⟩, -, rfl⟩ := Edit.apply_cases happly
  · rw [stop?_of_graph_eq hgraph] at hstop
    split at hstop
    · -- the new stop brings no station along
      obtain rfl := Option.some.inj hstop
      rw [hbare] at hstation
      cases hstation
    · obtain ⟨hlt, hne⟩ := h handle stop station hstop hstation
      refine ⟨?_, hne⟩
      rw [stopCount, hgraph, Digraph.order_addVertex]
      exact Nat.lt_succ_of_lt hlt
  · exact h handle stop station hstop hstation
  · rw [stop?_withParent] at hstop
    rw [stopCount_withParent]
    split at hstop
    · obtain ⟨old, -, rfl⟩ := Option.map_eq_some_iff.mp hstop
      obtain rfl := Option.some.inj hstation
      rename_i hchild
      exact ⟨hparent, hchild ▸ Ne.symm hother⟩
    · exact h handle stop station hstop hstation

/-- A network finds its stops by their ids, and its connections and stations stay inside. -/
structure Consistent (n : TransitNetwork) : Prop where
  registered : n.Registered
  closed : n.graph.Closed
  stations : n.HasStations

theorem closed_apply (h : n.graph.Closed) (happly : edit.apply n = .ok (next, out)) :
    next.graph.Closed := by
  obtain ⟨stop, -, -, -, hgraph, -⟩ | ⟨source, target, -, ⟨hsource, htarget⟩, -, rfl⟩ |
    ⟨stop, parent, -, -, -, rfl⟩ := Edit.apply_cases happly
  · rw [hgraph]
    exact h.addVertex stop
  · exact h.withArc hsource htarget
  · exact h.mapVertex stop _

theorem consistent_empty (id : RecordId) (name : String) : (empty id name).Consistent :=
  ⟨registered_empty id name, Digraph.closed_empty, hasStations_empty id name⟩

theorem consistent_edited {edits : List Edit} (hbare : ∀ edit ∈ edits, edit.IsBare)
    (h : n.Consistent) : (n.edited edits).Consistent where
  registered := h.registered.edited edits
  closed := afterCalls_of_keeps (fun _ _ _ _ _ happly hstate => closed_apply hstate happly) h.closed
  stations := afterCalls_of_keeps
    (fun edit hedit _ _ _ happly hstate => hstate.apply (hbare edit hedit) happly) h.stations

/-- After calls a network has what it had, under the same handles, but for stations that the calls
gave to its stops. -/
structure GrowsBy (edits : List Edit) (n next : TransitNetwork) : Prop where
  stop : ∀ handle stop, n.stop? handle = some stop →
    ∃ parent, next.stop? handle = some { stop with parent } ∧
      (parent = stop.parent ∨ ∃ station, .setParent handle station ∈ edits ∧ parent = some station)
  arc : ∀ handle arc, n.graph.arc? handle = some arc → next.graph.arc? handle = some arc

theorem growsBy_self (edits : List Edit) (n : TransitNetwork) : GrowsBy edits n n :=
  ⟨fun _ stop hstop => ⟨stop.parent, hstop, .inl rfl⟩, fun _ _ h => h⟩

theorem GrowsBy.trans {edits more : List Edit} (h : GrowsBy edits n next)
    (h' : GrowsBy more next last) : GrowsBy (edits ++ more) n last where
  stop := by
    intro handle stop hstop
    obtain ⟨parent, hnext, hparent⟩ := h.stop handle stop hstop
    obtain ⟨parent', hlast, hparent'⟩ := h'.stop handle _ hnext
    refine ⟨parent', hlast, ?_⟩
    obtain rfl | ⟨station, hmem, hset⟩ := hparent'
    · obtain hsame | ⟨station, hmem, hset⟩ := hparent
      · exact .inl hsame
      · exact .inr ⟨station, List.mem_append_left more hmem, hset⟩
    · exact .inr ⟨station, List.mem_append_right edits hmem, hset⟩
  arc := fun handle arc harc => h'.arc handle arc (h.arc handle arc harc)

theorem growsBy_apply (happly : edit.apply n = .ok (next, out)) : GrowsBy [edit] n next := by
  obtain ⟨added, -, -, -, hgraph, -⟩ | ⟨source, target, -, -, -, rfl⟩ |
    ⟨child, parent, rfl, -, -, rfl⟩ := Edit.apply_cases happly
  · have hextends := n.graph.extends_addVertex added
    rw [← hgraph] at hextends
    exact ⟨fun handle stop hstop => ⟨stop.parent, hextends.vertex handle stop hstop, .inl rfl⟩,
      hextends.arc⟩
  · have hextends := n.graph.extends_withArc ⟨source, target, ()⟩
    exact ⟨fun handle stop hstop => ⟨stop.parent, hstop, .inl rfl⟩, hextends.arc⟩
  · refine ⟨?_, fun _ _ h => h⟩
    intro handle stop hstop
    by_cases hchild : handle = child
    · refine ⟨some parent, ?_, .inr ⟨parent, by simp [hchild], rfl⟩⟩
      rw [stop?_withParent, if_pos hchild, hstop]
      rfl
    · refine ⟨stop.parent, ?_, .inl rfl⟩
      rw [stop?_withParent, if_neg hchild]
      exact hstop

theorem growsBy_edited (n : TransitNetwork) (edits : List Edit) :
    GrowsBy edits n (n.edited edits) := by
  induction edits generalizing n with
  | nil => exact growsBy_self [] n
  | cons edit rest ih =>
    rw [edited, afterCalls]
    split
    · rename_i next out happly
      exact (growsBy_apply happly).trans (ih next)
    · exact (growsBy_self [edit] n).trans (ih n)

end TransitNetwork

/-! ## The results -/

/-- Any calls with any handles, from an empty network on, leave a public transport network that
finds its stops by their ids and whose connections and stations stay inside, and a road network
whose sections do. What was added keeps its handle whatever is called later. A call fails exactly as
`RefusedBy` says, and in place it then leaves the network as it was. A section added once more is
another one. -/
theorem edited_networks_consistent (id : RecordId) (name : String)
    {edits : List TransitNetwork.Edit} (hbare : ∀ edit ∈ edits, edit.IsBare)
    (roadEdits : List (Digraph.Edit RoadNode RoadSection)) :
    let n := (TransitNetwork.empty id name).edited edits
    let roads := (Digraph.empty : RoadNetwork).edited roadEdits
    (n.Consistent ∧
      (∀ more, n.GrowsBy more ((TransitNetwork.empty id name).edited (edits ++ more))) ∧
      ∀ edit : TransitNetwork.Edit, CarriesOut edit.program edit.apply ∧
        ∀ failure, edit.apply n = .error failure ↔ edit.RefusedBy n failure) ∧
    (roads.Closed ∧
      (∀ more, roads.Extends (Digraph.empty.edited (roadEdits ++ more))) ∧
      (∀ edit : Digraph.Edit RoadNode RoadSection, CarriesOut edit.program edit.apply ∧
        ∀ failure, edit.apply roads = .error failure ↔ edit.RefusedBy roads failure) ∧
      ∀ source target first next handle, roads.addArc source target first = .ok (next, handle) →
        ∀ more again, ∃ last other,
          (next.edited more).addArc source target again = .ok (last, other) ∧ other ≠ handle ∧
          last.arc? handle = some ⟨source, target, first⟩ ∧
          last.arc? other = some ⟨source, target, again⟩) := by
  intro n roads
  have hconsistent : n.Consistent :=
    TransitNetwork.consistent_edited hbare (TransitNetwork.consistent_empty id name)
  refine ⟨⟨hconsistent, ?_, ?_⟩, Digraph.closed_edited Digraph.closed_empty roadEdits, ?_, ?_, ?_⟩
  · intro more
    rw [TransitNetwork.edited, afterCalls_append]
    exact n.growsBy_edited more
  · exact fun edit => ⟨edit.carriesOut, edit.apply_eq_error_iff hconsistent.registered⟩
  · intro more
    rw [Digraph.edited, afterCalls_append]
    exact roads.extends_edited more
  · exact fun edit => ⟨edit.carriesOut, edit.apply_eq_error_iff roads⟩
  · intro source target first next handle hadd more again
    exact Digraph.addArc_again hadd more again

def bareStop (id : RecordId) : Stop := ⟨id, "", false, none, 0, "", 0.5⟩

/-- Calls of which every other fails: a stop whose id is taken, a connection that leads nowhere, a
stop that is to be its own station, and one whose station does not exist. -/
def platformEdits : List TransitNetwork.Edit :=
  [.addStop (bareStop 100), .addStop (bareStop 100), .addStop (bareStop 101), .connect 0 9,
    .connect 0 1, .setParent 1 1, .setParent 1 0, .setParent 1 9]

theorem edited_networks_consistent_platform :
    ∃ n, n = (TransitNetwork.empty 1 "bus").edited platformEdits ∧ n.Consistent ∧
      n.stopCount = 2 ∧ n.connectionCount = 1 ∧ (n.stop? 1).map (·.parent) = some (some 0) ∧
      (TransitNetwork.Edit.addStop (bareStop 101)).apply n = .error (.duplicateId .stop 101) := by
  have hbare : ∀ edit ∈ platformEdits, edit.IsBare := by
    simp [platformEdits, TransitNetwork.Edit.IsBare, bareStop]
  obtain ⟨⟨hconsistent, -, hcalls⟩, -⟩ := edited_networks_consistent 1 "bus" hbare []
  refine ⟨_, rfl, hconsistent, by decide +kernel, by decide +kernel, by decide +kernel, ?_⟩
  exact ((hcalls (.addStop (bareStop 101))).2 _).mpr ⟨rfl, 1, by decide +kernel⟩

end Multimodal
