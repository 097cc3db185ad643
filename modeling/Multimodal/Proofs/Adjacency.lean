import Mathlib.Algebra.BigOperators.Group.Finset.Basic
import Multimodal.Proofs.ByIds
import Multimodal.Proofs.Conservation
import Multimodal.Proofs.GraphEdits

/-!
# Arcs seen from their ends

A graph keeps its arcs in the order of their addition, each with its ends. Seen from a vertex, the
graph is the arcs that leave it and the arcs that enter it. An `AdjacencyView` is anything that
answers with these: all that is known of it is that an arc, once added, shows at its two ends and
nowhere else.

* `Digraph.Closed.build`: a graph whose arcs stay inside is made of vertices, then arcs.
* `ArcsAt.list_perm`: every view shows the arcs of the graph, each where it ends.
* `AdjacencyView.shows`: joining arcs, neighbours and degrees in any view.
* `importNetwork_adjacency`: all of it for the networks of an import, with the rows they come from.
-/
namespace Multimodal

variable {ν α : Type}

namespace Digraph

/-! ## Arcs with their handles -/

theorem arcList_withArc (g : Digraph ν α) (arc : Arc α) :
    (g.withArc arc).arcList = g.arcList ++ [(g.size, arc)] := by
  simp [arcList, withArc, size, List.range_succ, List.zip_append]

theorem mem_arcList {g : Digraph ν α} {handle : Handle} {arc : Arc α} :
    (handle, arc) ∈ g.arcList ↔ g.arc? handle = some arc := by
  simp only [arcList, List.mem_iff_getElem?, List.getElem?_zip_eq_some, Array.getElem?_toList,
    arc?]
  constructor
  · rintro ⟨i, hi, harc⟩
    obtain ⟨hlt, rfl⟩ := List.getElem?_eq_some_iff.mp hi
    rwa [List.getElem_range]
  · intro harc
    obtain ⟨hlt, -⟩ := Array.getElem?_eq_some_iff.mp harc
    exact ⟨handle, List.getElem?_range hlt, harc⟩

theorem map_fst_arcList (g : Digraph ν α) : g.arcList.map (·.1) = List.range g.size := by
  rw [arcList, List.map_fst_zip]
  simp [size]

theorem map_snd_arcList (g : Digraph ν α) : g.arcList.map (·.2) = g.arcs.toList := by
  rw [arcList, List.map_snd_zip]
  simp [size]

theorem nodup_map_connecting (g : Digraph ν α) (a b : Handle) :
    ((g.connecting a b).map (·.1)).Nodup := by
  have hsublist : ((g.connecting a b).map (·.1)).Sublist (g.arcList.map (·.1)) :=
    List.filter_sublist.map _
  rw [g.map_fst_arcList] at hsublist
  exact hsublist.nodup List.nodup_range

theorem mem_map_connecting {g : Digraph ν α} {a b handle : Handle} :
    handle ∈ (g.connecting a b).map (·.1) ↔ g.ends? handle = some (a, b) := by
  simp only [connecting, List.mem_map, List.mem_filter, Prod.exists, exists_and_right,
    exists_eq_right, mem_arcList, ends?, Option.map_eq_some_iff, Prod.mk.injEq,
    Bool.and_eq_true, beq_iff_eq]

/-- What holds of the empty graph, and of a graph with one more vertex or arc if it holds without,
holds of all graphs whose arcs stay inside. -/
theorem Closed.build {P : Digraph ν α → Prop} (nothing : P empty)
    (vertex : ∀ g label, P g → P (g.addVertex label).1)
    (arc : ∀ g : Digraph ν α, ∀ arc, arc.source < g.order ∧ arc.target < g.order → P g →
      P (g.withArc arc)) {g : Digraph ν α} (h : g.Closed) : P g := by
  obtain ⟨⟨vertices⟩, ⟨arcs⟩⟩ := g
  -- all vertices come first, so that every arc finds its ends
  have hvertices : P ⟨vertices.toArray, #[]⟩ := by
    clear h
    induction vertices using List.reverseRecOn with
    | nil => exact nothing
    | append_singleton vertices label ih =>
      rw [← List.push_toArray]
      exact vertex _ label ih
  replace h : ∀ arc ∈ arcs, arc.source < vertices.length ∧ arc.target < vertices.length :=
    closed_iff_mem.mp h
  induction arcs using List.reverseRecOn with
  | nil => exact hvertices
  | append_singleton arcs last ih =>
    rw [List.forall_mem_append, List.forall_mem_singleton] at h
    change P ⟨vertices.toArray, (arcs ++ [last]).toArray⟩
    rw [← List.push_toArray]
    exact arc ⟨vertices.toArray, arcs.toArray⟩ last h.2 (ih h.1)

end Digraph

/-! ## Arcs at a vertex -/

/-- Lists of the arcs that have one end at each vertex of a graph, `side` being this end. An arc
that is added shows at its end, and what is shown besides changes nothing but maybe its order. -/
structure ArcsAt (ν : Type) {α : Type} (side : Arc α → Handle) where
  list : Digraph ν α → Handle → List Handle
  list_empty : ∀ v, list .empty v = []
  list_addVertex : ∀ g label v, (list (g.addVertex label).1 v).Perm (list g v)
  list_addArc : ∀ g source target label next handle,
    g.addArc source target label = .ok (next, handle) → ∀ v,
      (list next v).Perm
        (if side ⟨source, target, label⟩ = v then handle :: list g v else list g v)

namespace Digraph

def arcsAt (g : Digraph ν α) (side : Arc α → Handle) (v : Handle) : List (Handle × Arc α) :=
  g.arcList.filter fun p => side p.2 == v

theorem arcsAt_withArc (g : Digraph ν α) (side : Arc α → Handle) (arc : Arc α) (v : Handle) :
    (g.withArc arc).arcsAt side v =
      if side arc = v then g.arcsAt side v ++ [(g.size, arc)] else g.arcsAt side v := by
  rw [arcsAt, arcList_withArc, List.filter_append]
  by_cases hside : side arc = v
  · simp [hside, arcsAt]
  · simp [hside, arcsAt]

theorem mem_arcsAt {g : Digraph ν α} {side : Arc α → Handle} {v handle : Handle} {arc : Arc α} :
    (handle, arc) ∈ g.arcsAt side v ↔ g.arc? handle = some arc ∧ side arc = v := by
  rw [arcsAt, List.mem_filter, mem_arcList, beq_iff_eq]

theorem map_snd_arcsAt (g : Digraph ν α) (side : Arc α → Handle) (v : Handle) :
    (g.arcsAt side v).map (·.2) = g.arcs.toList.filter (side · == v) := by
  rw [arcsAt, ← map_snd_arcList, List.filter_map]
  rfl

end Digraph

namespace ArcsAt

variable {side : Arc α → Handle}

/-- The arcs at a vertex, the newest first. -/
def newestFirst (ν : Type) (side : Arc α → Handle) : ArcsAt ν side where
  list g v := ((g.arcsAt side v).map (·.1)).reverse
  list_empty _ := rfl
  list_addVertex _ _ _ := .refl _
  list_addArc := by
    intro g source target label next handle hadd v
    obtain ⟨-, rfl, rfl⟩ := Digraph.addArc_eq_ok_iff.mp hadd
    rw [Digraph.arcsAt_withArc]
    split
    · rw [List.map_append, List.reverse_append]
      exact .refl _
    · exact .refl _

/-- All lists of this kind show the arcs of a graph, each where it ends. -/
theorem list_perm (arcs : ArcsAt ν side) {g : Digraph ν α} (h : g.Closed) (v : Handle) :
    (arcs.list g v).Perm ((g.arcsAt side v).map (·.1)) := by
  revert v
  refine h.build (P := fun g => ∀ v, (arcs.list g v).Perm ((g.arcsAt side v).map (·.1))) ?_ ?_ ?_
  · intro v
    rw [arcs.list_empty]
    exact .refl _
  · intro g label ih v
    exact (arcs.list_addVertex g label v).trans (ih v)
  · intro g arc hends ih v
    have hadd := Digraph.addArc_eq_ok_iff.mpr
      ⟨hends, rfl, (rfl : g.withArc arc = g.withArc ⟨arc.source, arc.target, arc.label⟩)⟩
    refine (arcs.list_addArc g _ _ _ _ _ hadd v).trans ?_
    rw [Digraph.arcsAt_withArc]
    split
    · rw [List.map_append]
      exact ((ih v).cons g.size).trans (List.perm_append_singleton _ _).symm
    · exact ih v

/-- The other ends of the arcs at a vertex, one for each arc. -/
def neighbours (arcs : ArcsAt ν side) (far : Arc α → Handle) (g : Digraph ν α) (v : Handle) :
    List Handle :=
  (arcs.list g v).filterMap fun handle => (g.arc? handle).map far

theorem neighbours_perm (arcs : ArcsAt ν side) (far : Arc α → Handle) {g : Digraph ν α}
    (h : g.Closed) (v : Handle) :
    (arcs.neighbours far g v).Perm ((g.arcsAt side v).map fun p => far p.2) := by
  refine ((arcs.list_perm h v).filterMap _).trans (.of_eq ?_)
  rw [List.filterMap_map, ← List.filterMap_eq_map]
  refine List.filterMap_congr fun p hp => ?_
  simp [(Digraph.mem_arcsAt.mp hp).1]

theorem sum_length_list (arcs : ArcsAt ν side) {g : Digraph ν α} (h : g.Closed)
    (hside : ∀ arc ∈ g.arcs.toList, side arc < g.order) :
    ∑ v ∈ Finset.range g.order, (arcs.list g v).length = g.size := by
  have hlength : ∀ v, (arcs.list g v).length =
      (Multiset.ofList (g.arcs.toList.map side)).count v := by
    intro v
    rw [(arcs.list_perm h v).length_eq, List.length_map, ← List.length_map (·.2),
      Digraph.map_snd_arcsAt, ← List.countP_eq_length_filter, Multiset.coe_count, List.count,
      List.countP_map]
    rfl
  simp only [hlength]
  rw [Multiset.sum_count_eq_card]
  · simp [Digraph.size]
  · intro v hv
    obtain ⟨arc, harc, rfl⟩ := List.mem_map.mp (Multiset.mem_coe.mp hv)
    exact Finset.mem_range.mpr (hside arc harc)

end ArcsAt

/-! ## Both ends -/

/-- A view of a graph from its vertices. -/
structure AdjacencyView (ν α : Type) where
  leaving : ArcsAt ν (@Arc.source α)
  entering : ArcsAt ν (@Arc.target α)

namespace AdjacencyView

/-- The view that shows the newest arcs first. -/
def newestFirst (ν α : Type) : AdjacencyView ν α := ⟨.newestFirst ν _, .newestFirst ν _⟩

def connecting (view : AdjacencyView ν α) (g : Digraph ν α) (a b : Handle) : List Handle :=
  (view.leaving.list g a).filter fun handle => (g.arc? handle).map (·.target) == some b

def successors (view : AdjacencyView ν α) (g : Digraph ν α) (a : Handle) : List Handle :=
  view.leaving.neighbours (·.target) g a

def predecessors (view : AdjacencyView ν α) (g : Digraph ν α) (b : Handle) : List Handle :=
  view.entering.neighbours (·.source) g b

/-- A view shows the arcs of a graph, each once, and the neighbours and degrees that they give. -/
structure Shows (view : AdjacencyView ν α) (g : Digraph ν α) : Prop where
  nodup : ∀ a b, (view.connecting g a b).Nodup
  mem_iff : ∀ a b handle, handle ∈ view.connecting g a b ↔ g.ends? handle = some (a, b)
  connecting : ∀ a b, (view.connecting g a b).Perm ((g.connecting a b).map (·.1))
  successors : ∀ a, (view.successors g a).Perm (g.successors a)
  predecessors : ∀ b, (view.predecessors g b).Perm (g.predecessors b)
  targets : ∀ a, (view.successors g a).Perm
    ((g.arcs.toList.filter (·.source == a)).map (·.target))
  sources : ∀ b, (view.predecessors g b).Perm
    ((g.arcs.toList.filter (·.target == b)).map (·.source))
  outDegrees : ∑ v ∈ Finset.range g.order, (view.leaving.list g v).length = g.size
  inDegrees : ∑ v ∈ Finset.range g.order, (view.entering.list g v).length = g.size

theorem connecting_perm (view : AdjacencyView ν α) {g : Digraph ν α} (h : g.Closed)
    (a b : Handle) : (view.connecting g a b).Perm ((g.connecting a b).map (·.1)) := by
  have hjoin : ((g.arcsAt (@Arc.source α) a).filter fun p =>
      (g.arc? p.1).map (·.target) == some b) = g.connecting a b := by
    rw [Digraph.connecting, Digraph.arcsAt, List.filter_filter]
    refine List.filter_congr fun p hp => ?_
    rw [Digraph.mem_arcList.mp hp]
    simp [Bool.and_comm]
  refine ((view.leaving.list_perm h a).filter _).trans (.of_eq ?_)
  rw [List.filter_map, ← hjoin]
  rfl

/-- Every view shows a graph whose arcs stay inside. -/
theorem shows (view : AdjacencyView ν α) {g : Digraph ν α} (h : g.Closed) : view.Shows g where
  nodup := fun a b => (view.connecting_perm h a b).nodup_iff.mpr (g.nodup_map_connecting a b)
  mem_iff := fun a b handle => (view.connecting_perm h a b).mem_iff.trans Digraph.mem_map_connecting
  connecting := view.connecting_perm h
  successors := view.leaving.neighbours_perm _ h
  predecessors := view.entering.neighbours_perm _ h
  targets := by
    intro a
    refine (view.leaving.neighbours_perm _ h a).trans (.of_eq ?_)
    rw [← g.map_snd_arcsAt, List.map_map]
    rfl
  sources := by
    intro b
    refine (view.entering.neighbours_perm _ h b).trans (.of_eq ?_)
    rw [← g.map_snd_arcsAt, List.map_map]
    rfl
  outDegrees :=
    view.leaving.sum_length_list h fun arc harc => (Digraph.closed_iff_mem.mp h arc harc).1
  inDegrees :=
    view.entering.sum_length_list h fun arc harc => (Digraph.closed_iff_mem.mp h arc harc).2

end AdjacencyView

/-! ## Arcs that come from rows -/

/-- An arc leads from the vertex with one id of a row to the vertex with another, `ids` being those
of the vertices in the order of their handles. -/
def JoinsEnds {ρ : Type} (ids : List RecordId) (source target : ρ → RecordId) (row : ρ)
    (arc : Arc α) : Prop :=
  ids[arc.source]? = some (source row) ∧ ids[arc.target]? = some (target row)

section
variable {ρ : Type} {ids : List RecordId} {source target : ρ → RecordId} {rows : List ρ}
  {g : Digraph ν α} (hrows : List.Forall₂ (JoinsEnds ids source target) rows g.arcs.toList)
include hrows

/-- Arcs between vertices that have ids stay inside. -/
theorem closed_of_rows (hids : ids.length = g.order) : g.Closed := by
  rw [Digraph.closed_iff_mem]
  refine forall_mem_of_forall₂ (P := fun _ => True) ?_ hrows fun _ _ => trivial
  rintro row arc ⟨hsource, htarget⟩ -
  obtain ⟨hsource, -⟩ := List.getElem?_eq_some_iff.mp hsource
  obtain ⟨htarget, -⟩ := List.getElem?_eq_some_iff.mp htarget
  exact ⟨hids ▸ hsource, hids ▸ htarget⟩

/-- As many arcs join two vertices as rows name their ids. -/
theorem length_connecting_of_rows {index : IdIndex} {kind : RecordKind}
    (hindex : index.Lists kind ids) {a b : Handle} {x y : RecordId} (ha : ids[a]? = some x)
    (hb : ids[b]? = some y) :
    ((g.connecting a b).map (·.1)).length =
      rows.countP fun row => source row == x && target row == y := by
  have hend : ∀ {v w : Handle} {z id : RecordId}, ids[v]? = some z → ids[w]? = some id →
      (w == v) = (id == z) := by
    intro v w z id hv hw
    rw [Bool.eq_iff_iff, beq_iff_eq, beq_iff_eq]
    constructor
    · rintro rfl
      exact Option.some.inj (hw.symm.trans hv)
    · rintro rfl
      exact hindex.place_unique hw hv
  have hjoin : (g.connecting a b).length =
      g.arcs.toList.countP fun arc => arc.source == a && arc.target == b := by
    rw [← g.map_snd_arcList, List.countP_map, List.countP_eq_length_filter]
    rfl
  rw [List.length_map, hjoin]
  refine countP_eq_of_forall₂ ?_ hrows
  rintro row arc ⟨hsource, htarget⟩
  rw [hend ha hsource, hend hb htarget]

end

/-! ## The networks of an import -/

namespace Network

variable {nodes : List NodeRow} {sections : List SectionRow} {n : Network}

theorem HoldsRoads.joinsEnds (h : n.HoldsRoads nodes sections) :
    List.Forall₂ (JoinsEnds (nodes.map (·.id)) SectionRow.nodeFrom SectionRow.nodeTo) sections
      n.road.arcs.toList :=
  h.arcs.imp fun _ _ harc => ⟨harc.source, harc.target⟩

theorem HoldsRoads.closed (h : n.HoldsRoads nodes sections) : n.road.Closed :=
  closed_of_rows h.joinsEnds (by rw [List.length_map, h.order_eq])

end Network

namespace TransitNetwork

variable {sections : List RecordId} {rows : TransitRows} {t : TransitNetwork}

theorem Holds.joinsEnds (h : t.Holds sections rows) :
    List.Forall₂ (JoinsEnds (rows.stops.map (·.id)) ConnectionRow.stopFrom ConnectionRow.stopTo)
      rows.connections t.graph.arcs.toList :=
  h.arcs.imp fun _ _ harc => ⟨harc.source, harc.target⟩

theorem Holds.closed (h : t.Holds sections rows) : t.graph.Closed :=
  closed_of_rows h.joinsEnds (by rw [List.length_map, h.order_eq])

end TransitNetwork

/-- In any view, the road graph of a successful import and the graph of each of its public transport
networks show their arcs, and as many arcs join two vertices as accepted rows name their ids. -/
theorem importNetwork_adjacency {source : RowSource} {options : ImportOptions} {n : Network}
    (h : (importNetwork source options).outcome = .ok n)
    (roads : AdjacencyView RoadNode RoadSection) (stops : AdjacencyView Stop Unit) :
    (roads.Shows n.road ∧ ∀ a b x y, n.nodeIdAt? a = some x → n.nodeIdAt? b = some y →
      (roads.connecting n.road a b).length =
        (source.rows.accepted options.stationLinking).sections.countP fun row =>
          row.nodeFrom == x && row.nodeTo == y) ∧
    ∀ (place : Nat) (t : TransitNetwork), n.transit[place]? = some t →
      stops.Shows t.graph ∧
      ∃ kept, (source.rows.accepted options.stationLinking).networks[place]? = some kept ∧
        ∀ a b x y, t.stopIdAt? a = some x → t.stopIdAt? b = some y →
          (stops.connecting t.graph a b).length =
            kept.connections.countP fun row => row.stopFrom == x && row.stopTo == y := by
  obtain rfl := RowSource.eq_imported h
  rw [source.rows.accepted_eq_usable]
  have hroads := source.rows.holdsRoads_imported options.stationLinking
  refine ⟨⟨roads.shows hroads.closed, ?_⟩, ?_⟩
  · intro a b x y ha hb
    rw [hroads.nodeIdAt?_eq] at ha hb
    rw [(roads.connecting_perm hroads.closed a b).length_eq]
    exact length_connecting_of_rows hroads.joinsEnds hroads.nodeIndex ha hb
  · intro place t ht
    rw [source.rows.transit_imported, Option.map_eq_some_iff] at ht
    obtain ⟨given, hgiven, rfl⟩ := ht
    have hholds := holds_importedTransit source.rows.holdsRoads_roads.sectionIndex
      options.stationLinking given
    refine ⟨stops.shows hholds.closed, _, by rw [source.rows.networks_usable, hgiven]; rfl, ?_⟩
    intro a b x y ha hb
    rw [hholds.stopIdAt?_eq] at ha hb
    rw [(stops.connecting_perm hholds.closed a b).length_eq]
    exact length_connecting_of_rows hholds.joinsEnds hholds.stopIndex ha hb

/-- Two nodes, with two sections from the first to the second, one back and a loop, and two stops
connected in the same way. -/
def crossing : MemoryRows where
  nodes := [{ id := 1 }, { id := 2 }]
  sections :=
    [ { id := 7, nodeFrom := 1, nodeTo := 2 }, { id := 8, nodeFrom := 2, nodeTo := 1 },
      { id := 9, nodeFrom := 1, nodeTo := 2 }, { id := 10, nodeFrom := 2, nodeTo := 2 } ]
  networks :=
    [ { networkId := 1, name := "bus"
        stops := [{ id := 5, roadSection := 7 }, { id := 6, roadSection := 7 }]
        connections := [⟨5, 6⟩, ⟨6, 5⟩, ⟨5, 6⟩, ⟨6, 6⟩] } ]

theorem importNetwork_adjacency_crossing :
    ∃ n, (importNetwork crossing.source ⟨.fail, .twoPass⟩).outcome = .ok n ∧
      (AdjacencyView.newestFirst _ _).Shows n.road ∧
      ((AdjacencyView.newestFirst _ _).connecting n.road 0 1).length = 2 ∧
      (AdjacencyView.newestFirst _ _).connecting n.road 0 1 = [2, 0] ∧
      (AdjacencyView.newestFirst _ _).successors n.road 1 = [1, 0] ∧
      (AdjacencyView.newestFirst _ _).predecessors n.road 1 = [1, 0, 0] ∧
      ∃ t, n.transit[0]? = some t ∧ (AdjacencyView.newestFirst _ _).Shows t.graph := by
  have hok : (importNetwork crossing.source ⟨.fail, .twoPass⟩).outcome =
      .ok (crossing.imported .twoPass) :=
    (outcome_importNetwork_fail_eq_ok_iff crossing .twoPass _).mpr ⟨by decide +kernel, rfl⟩
  obtain ⟨⟨hroads, hlength⟩, hstops⟩ := importNetwork_adjacency hok (.newestFirst _ _)
    (.newestFirst _ _)
  exact ⟨_, hok, hroads,
    (hlength 0 1 1 2 (by decide +kernel) (by decide +kernel)).trans (by decide +kernel),
    by decide +kernel, by decide +kernel, by decide +kernel, _, rfl, (hstops 0 _ rfl).1⟩

end Multimodal
