import Multimodal.Proofs.Checks
import Multimodal.Proofs.Pass
import Multimodal.Proofs.Registration

/-!
# Importing roads

A network that holds node rows and section rows has a vertex for each node row and an arc for each
section row, in their order, and its indexes list their ids (`Network.HoldsRoads`). Both road phases
keep this: a row that passes its checks is added at the end, and any other is refused with the
failure of its first check (`follows_offerNode`, `follows_offerSection`).

`holdsRoads_importedRoads` says which rows the roads of an import come from.
-/
namespace Multimodal

/-! ## What a section row says -/

/-- The codes of road classes are the numbers from one to seven. -/
theorem RoadType.isSome_ofCode?_iff (code : Int) :
    (ofCode? code).isSome = true ↔ 1 ≤ code ∧ code ≤ 7 := by
  simp only [ofCode?, all, List.find?_isSome, List.mem_cons, List.not_mem_nil, or_false,
    exists_eq_or_imp, exists_eq_left, RoadType.code, beq_iff_eq]
  omega

namespace SectionRow

/-- A road section carries every field of a row. -/
structure Describes (row : SectionRow) (s : RoadSection) : Prop where
  id : s.id = row.id
  roadType : s.roadType = row.roadType.bind fun code => RoadType.ofCode? code.toInt
  forwardModes : s.forwardModes.bits = row.forwardModes
  backwardModes : s.backwardModes.bits = row.backwardModes
  length : s.length = row.length
  carSpeedLimit : s.carSpeedLimit = row.carSpeedLimit
  carAverageSpeed : s.carAverageSpeed = row.carAverageSpeed
  transitAverageSpeed : s.transitAverageSpeed = row.transitAverageSpeed
  roadName : s.roadName = row.roadName
  leftAddresses : s.leftAddresses = row.leftAddresses
  rightAddresses : s.rightAddresses = row.rightAddresses
  lanes : s.lanes = row.lanes
  isRoundabout : s.isRoundabout = row.isRoundabout
  isBridge : s.isBridge = row.isBridge
  isTunnel : s.isTunnel = row.isTunnel
  isRamp : s.isRamp = row.isRamp
  isTollway : s.isTollway = row.isTollway

/-- An arc carries a row and leads from its first node to its second, `nodes` being the ids of the
nodes in the order of their handles. -/
structure Becomes (nodes : List RecordId) (row : SectionRow) (arc : Arc RoadSection) : Prop where
  source : nodes[arc.source]? = some row.nodeFrom
  target : nodes[arc.target]? = some row.nodeTo
  label : row.Describes arc.label

variable {row : SectionRow}

theorem class?_of_hasClass (h : row.hasClass = true) :
    row.class? = .ok (row.roadType.bind fun code => RoadType.ofCode? code.toInt) := by
  unfold class?
  cases hcode : row.roadType with
  | none => rfl
  | some code =>
    simp only [hasClass, hcode, Option.all_some, decide_eq_true_eq] at h
    obtain ⟨t, ht⟩ := Option.isSome_iff_exists.mp ((RoadType.isSome_ofCode?_iff _).mpr h)
    simp [ht]

theorem class?_of_not_hasClass (h : row.hasClass = false) :
    row.class? = .error (.unknownRoadType row.id (row.roadType.getD 0)) := by
  unfold class?
  cases hcode : row.roadType with
  | none => simp [hasClass, hcode] at h
  | some code =>
    simp only [hasClass, hcode, Option.all_some, decide_eq_false_iff_not] at h
    have hnone : RoadType.ofCode? code.toInt = none := by
      rw [← Option.not_isSome_iff_eq_none, RoadType.isSome_ofCode?_iff]
      exact h
    simp [hnone]

theorem roadSection?_of_valid (hclass : row.hasClass = true) (hlength : row.hasLength = true) :
    ∃ s, row.roadSection? = .ok s ∧ row.Describes s := by
  have hl : isLength row.length = true := hlength
  simp only [roadSection?, class?_of_hasClass hclass, hl]
  exact ⟨_, rfl, by constructor <;> rfl⟩

theorem roadSection?_of_not_hasClass (hclass : row.hasClass = false) :
    row.roadSection? = .error (.unknownRoadType row.id (row.roadType.getD 0)) := by
  simp only [roadSection?, class?_of_not_hasClass hclass]
  rfl

theorem roadSection?_of_not_hasLength (hclass : row.hasClass = true)
    (hlength : row.hasLength = false) :
    row.roadSection? = .error (.invalidLength row.id row.length) := by
  have hl : isLength row.length = false := hlength
  simp only [roadSection?, class?_of_hasClass hclass, hl]
  rfl

end SectionRow

/-! ## One row -/

namespace Network

/-- The roads of a network are those of node rows and section rows, in their order. -/
structure HoldsRoads (nodes : List NodeRow) (sections : List SectionRow) (n : Network) : Prop where
  vertices : n.road.vertices.toList = nodes.map NodeRow.node
  nodeIndex : n.nodeIndex.Lists .roadNode (nodes.map (·.id))
  arcs : List.Forall₂ (SectionRow.Becomes (nodes.map (·.id))) sections n.road.arcs.toList
  sectionIndex : n.sectionIndex.Lists .roadSection (sections.map (·.id))

theorem holdsRoads_empty : Network.empty.HoldsRoads [] [] :=
  ⟨rfl, IdIndex.lists_empty _, .nil, IdIndex.lists_empty _⟩

variable {nodes : List NodeRow} {sections : List SectionRow} {n : Network}

theorem HoldsRoads.order_eq (h : n.HoldsRoads nodes sections) : n.road.order = nodes.length := by
  rw [Digraph.order, ← Array.length_toList, h.vertices, List.length_map]

theorem HoldsRoads.size_eq (h : n.HoldsRoads nodes sections) : n.road.size = sections.length := by
  rw [Digraph.size, ← Array.length_toList, ← h.arcs.length_eq]

theorem HoldsRoads.handle_lt (h : n.HoldsRoads nodes sections) {handle : Nat} {id : RecordId}
    (hid : (nodes.map (·.id))[handle]? = some id) : handle < n.road.order := by
  obtain ⟨hlt, -⟩ := List.getElem?_eq_some_iff.mp hid
  rw [h.order_eq]
  simpa using hlt

/-- A node row with a new id is added at the end. -/
theorem HoldsRoads.acceptNode (h : n.HoldsRoads nodes []) {row : NodeRow}
    (hnew : row.id ∉ nodes.map (·.id)) :
    ∃ next, n.acceptNode row = .ok next ∧ next.HoldsRoads (nodes ++ [row]) [] := by
  obtain ⟨nodeIndex, hreg, hlists⟩ := h.nodeIndex.register hnew
  have hfresh : n.nodeIndex.contains row.id = false := by
    rw [Bool.eq_false_iff, ne_eq, h.nodeIndex.contains_iff]
    exact hnew
  rw [List.length_map, ← h.order_eq] at hreg
  refine ⟨{ n with road := (n.road.addVertex row.node).1, nodeIndex }, ?_, ?_⟩
  · simp [Network.acceptNode, hfresh, Digraph.addVertex, hreg, bind, Except.bind, pure, Except.pure]
  · refine ⟨?_, by simpa using hlists, ?_, h.sectionIndex⟩
    · simp [Digraph.addVertex, h.vertices]
    · have harcs : n.road.arcs.toList = [] := by simpa using h.arcs
      simp [Digraph.addVertex, harcs]

/-- A valid section row with a new id is added at the end. -/
theorem HoldsRoads.acceptSection (h : n.HoldsRoads nodes sections) {row : SectionRow}
    (hvalid : row.isValid (nodes.map (·.id)) = true) (hnew : row.id ∉ sections.map (·.id))
    (position : Nat) :
    ∃ next, n.acceptSection position row = .ok next ∧
      next.HoldsRoads nodes (sections ++ [row]) := by
  simp only [SectionRow.isValid, Bool.and_eq_true, List.contains_iff_mem] at hvalid
  obtain ⟨⟨⟨hfrom, hto⟩, hclass⟩, hlength⟩ := hvalid
  obtain ⟨source, hsource, hsourceId⟩ := h.nodeIndex.follow_of_mem hfrom .roadSection position
    (some row.id) "node_from"
  obtain ⟨target, htarget, htargetId⟩ := h.nodeIndex.follow_of_mem hto .roadSection position
    (some row.id) "node_to"
  obtain ⟨label, hlabel, hdescribes⟩ := SectionRow.roadSection?_of_valid hclass hlength
  obtain ⟨sectionIndex, hreg, hlists⟩ := h.sectionIndex.register hnew
  have hfresh : n.sectionIndex.contains row.id = false := by
    rw [Bool.eq_false_iff, ne_eq, h.sectionIndex.contains_iff]
    exact hnew
  rw [List.length_map, ← h.size_eq] at hreg
  have hends : source < n.road.order ∧ target < n.road.order :=
    ⟨h.handle_lt hsourceId, h.handle_lt htargetId⟩
  refine ⟨{ n with road := { n.road with arcs := n.road.arcs.push ⟨source, target, label⟩ },
                   sectionIndex }, ?_, ?_⟩
  · simp [Network.acceptSection, hsource, htarget, hfresh, hlabel, Digraph.addArc, hends, hreg,
      bind, Except.bind, pure, Except.pure, Except.mapError]
  · refine ⟨h.vertices, h.nodeIndex, ?_, by simpa using hlists⟩
    have hlast : List.Forall₂ (SectionRow.Becomes (nodes.map (·.id))) [row]
        [⟨source, target, label⟩] := .cons ⟨hsourceId, htargetId, hdescribes⟩ .nil
    simpa using List.rel_append h.arcs hlast

/-- A section row that does not pass its checks is refused with the failure of the first. -/
theorem HoldsRoads.acceptSection_eq_error (h : n.HoldsRoads nodes sections) {row : SectionRow}
    {position : Nat} {failure : Failure}
    (hfail : firstFailure (row.checks (nodes.map (·.id)) (sections.map (·.id)) position) =
      some failure) :
    n.acceptSection position row = .error failure := by
  simp only [SectionRow.checks, firstFailure_cons, firstFailure_nil, List.contains_eq_mem] at hfail
  by_cases hfrom : row.nodeFrom ∈ nodes.map (·.id)
  case neg =>
    have hsource := h.nodeIndex.follow_of_not_mem hfrom .roadSection position (some row.id)
      "node_from"
    simp only [hfrom, decide_false, Bool.false_eq_true, if_false, Option.some.injEq] at hfail
    simp [Network.acceptSection, hsource, bind, Except.bind, hfail]
  obtain ⟨source, hsource, -⟩ := h.nodeIndex.follow_of_mem hfrom .roadSection position (some row.id)
    "node_from"
  by_cases hto : row.nodeTo ∈ nodes.map (·.id)
  case neg =>
    have htarget := h.nodeIndex.follow_of_not_mem hto .roadSection position (some row.id) "node_to"
    simp only [hfrom, hto, decide_true, decide_false, Bool.false_eq_true, if_true, if_false,
      Option.some.injEq] at hfail
    simp [Network.acceptSection, hsource, htarget, bind, Except.bind, hfail]
  obtain ⟨target, htarget, -⟩ := h.nodeIndex.follow_of_mem hto .roadSection position (some row.id)
    "node_to"
  have hcontains := h.sectionIndex.contains_iff row.id
  by_cases hnew : row.id ∈ sections.map (·.id)
  case pos =>
    simp only [hfrom, hto, hnew, decide_true, Bool.not_true, Bool.false_eq_true, if_true, if_false,
      Option.some.injEq] at hfail
    simp [Network.acceptSection, hsource, htarget, hcontains.mpr hnew, bind, Except.bind, hfail,
      throw, throwThe, MonadExceptOf.throw]
  have hfresh : n.sectionIndex.contains row.id = false := by
    rw [Bool.eq_false_iff, ne_eq, hcontains]
    exact hnew
  -- the references and the id are in order, so the fault is in the class or the length
  obtain ⟨fault, hfault, rfl⟩ : ∃ fault, row.roadSection? = .error fault ∧
      failure = .malformedRecord .roadSection position fault := by
    simp only [hfrom, hto, hnew, decide_true, decide_false, Bool.not_false, if_true] at hfail
    cases hclass : row.hasClass with
    | false =>
      simp only [hclass, Bool.false_eq_true, if_false, Option.some.injEq] at hfail
      exact ⟨_, SectionRow.roadSection?_of_not_hasClass hclass, hfail.symm⟩
    | true =>
      cases hlength : row.hasLength with
      | false =>
        simp only [hclass, hlength, Bool.false_eq_true, if_true, if_false,
          Option.some.injEq] at hfail
        exact ⟨_, SectionRow.roadSection?_of_not_hasLength hclass hlength, hfail.symm⟩
      | true => simp only [hclass, hlength, if_true, reduceCtorEq] at hfail
  simp [Network.acceptSection, hsource, htarget, hfresh, hfault, bind, Except.bind, Except.mapError]

/-! ## Finding nodes and sections -/

theorem HoldsRoads.vertex?_eq (h : n.HoldsRoads nodes sections) (handle : Nat) :
    n.road.vertex? handle = nodes[handle]?.map NodeRow.node := by
  rw [Digraph.vertex?, ← Array.getElem?_toList, h.vertices, List.getElem?_map]

theorem HoldsRoads.node?_eq_some_iff (h : n.HoldsRoads nodes sections) (id : RecordId)
    (handle : Handle) (node : RoadNode) :
    n.node? id = some (handle, node) ↔
      ∃ row, nodes[handle]? = some row ∧ row.id = id ∧ row.node = node := by
  simp only [node?, Option.bind_eq_bind, Option.bind_eq_some_iff, h.nodeIndex.get?_eq_some,
    List.getElem?_map, Option.map_eq_some_iff, h.vertex?_eq, Option.pure_def, Option.some.injEq,
    Prod.mk.injEq]
  constructor
  · rintro ⟨_, ⟨row, hrow, hid⟩, _, ⟨same, hsame, rfl⟩, rfl, rfl⟩
    obtain rfl : row = same := by simpa [hrow] using hsame
    exact ⟨row, hrow, hid, rfl⟩
  · rintro ⟨row, hrow, hid, rfl⟩
    exact ⟨handle, ⟨row, hrow, hid⟩, row.node, ⟨row, hrow, rfl⟩, rfl, rfl⟩

theorem HoldsRoads.arc?_of_section (h : n.HoldsRoads nodes sections) {handle : Nat}
    {row : SectionRow} (hrow : sections[handle]? = some row) :
    ∃ arc, n.road.arc? handle = some arc ∧ row.Becomes (nodes.map (·.id)) arc :=
  exists_getElem?_of_forall₂ h.arcs hrow

theorem HoldsRoads.section?_eq_some_iff (h : n.HoldsRoads nodes sections) (id : RecordId)
    (handle : Handle) (s : RoadSection) :
    n.section? id = some (handle, s) ↔
      ∃ row arc, sections[handle]? = some row ∧ row.id = id ∧
        n.road.arc? handle = some arc ∧ arc.label = s := by
  simp only [section?, Option.bind_eq_bind, Option.bind_eq_some_iff, h.sectionIndex.get?_eq_some,
    List.getElem?_map, Option.map_eq_some_iff, Option.pure_def, Option.some.injEq, Prod.mk.injEq]
  constructor
  · rintro ⟨_, ⟨row, hrow, hid⟩, arc, harc, rfl, rfl⟩
    exact ⟨row, arc, hrow, hid, harc, rfl⟩
  · rintro ⟨row, arc, hrow, hid, harc, rfl⟩
    exact ⟨handle, ⟨row, hrow, hid⟩, arc, harc, rfl, rfl⟩

/-! ## A whole phase -/

def offerNode : Acceptance NodeRow Network := fun _ row n => return (← n.acceptNode row, [])

def offerSection : Acceptance SectionRow Network := fun position row n =>
  return (← n.acceptSection position row, [.sectionAdded row.id row.nodeFrom row.nodeTo])

theorem follows_offerNode :
    offerNode.Follows (fun kept _ row => firstFailure (row.checks (kept.map (·.id))))
      (fun kept n => n.HoldsRoads kept []) where
  refuses := by
    intro kept position row n failure h hfail
    have htaken : row.id ∈ kept.map (·.id) := by
      by_contra hnew
      rw [(row.firstFailure_checks_eq_none_iff _).mpr hnew] at hfail
      cases hfail
    have hcontains := (h.nodeIndex.contains_iff row.id).mpr htaken
    simp only [NodeRow.checks, firstFailure_cons, List.contains_eq_mem, htaken, decide_true,
      Bool.not_true, Bool.false_eq_true, if_false, Option.some.injEq] at hfail
    simp [offerNode, acceptNode, hcontains, bind, Except.bind, hfail]
  accepts := by
    intro kept position row n h hpass
    obtain ⟨next, haccept, hnext⟩ :=
      h.acceptNode ((row.firstFailure_checks_eq_none_iff _).mp hpass)
    exact ⟨next, [], by simp [offerNode, haccept, bind, Except.bind, pure, Except.pure], hnext⟩

theorem follows_offerSection (nodes : List NodeRow) :
    offerSection.Follows
      (fun kept position row =>
        firstFailure (row.checks (nodes.map (·.id)) (kept.map (·.id)) position))
      (HoldsRoads nodes) where
  refuses := by
    intro kept position row n failure h hfail
    simp [offerSection, h.acceptSection_eq_error hfail, bind, Except.bind]
  accepts := by
    intro kept position row n h hpass
    obtain ⟨hvalid, hnew⟩ := (row.firstFailure_checks_eq_none_iff _ _ _).mp hpass
    obtain ⟨next, haccept, hnext⟩ := h.acceptSection hvalid hnew position
    exact ⟨next, [.sectionAdded row.id row.nodeFrom row.nodeTo],
      by simp [offerSection, haccept, bind, Except.bind, pure, Except.pure], hnext⟩

theorem steady_offerNode : offerNode.Steady := fun _ _ _ _ _ h _ => h

theorem steady_offerSection : offerSection.Steady := by
  intro position row n next notes h other
  simp only [offerSection, acceptSection, IdIndex.follow] at h ⊢
  cases hfrom : n.nodeIndex.get? row.nodeFrom with
  | none => simp [hfrom, bind, Except.bind] at h
  | some source =>
    cases hto : n.nodeIndex.get? row.nodeTo with
    | none => simp [hfrom, hto, bind, Except.bind] at h
    | some target =>
      cases hnew : n.sectionIndex.contains row.id with
      | true =>
        simp [hfrom, hto, hnew, bind, Except.bind, throw, throwThe, MonadExceptOf.throw] at h
      | false =>
        cases hlabel : row.roadSection? with
        | error fault => simp [hfrom, hto, hnew, hlabel, bind, Except.bind, Except.mapError] at h
        | ok label => simpa [hfrom, hto, hnew, hlabel, bind, Except.bind, Except.mapError] using h

end Network

def importedNodes (nodes : List NodeRow) : Network := Network.offerNode.after 0 nodes Network.empty

def importedRoads (nodes : List NodeRow) (sections : List SectionRow) : Network :=
  Network.offerSection.after 0 sections (importedNodes nodes)

/-- The section rows that join nodes of an import and make sense. -/
def validSections (nodes : List NodeRow) (sections : List SectionRow) : List SectionRow :=
  sections.filter (SectionRow.isValid (nodes.map (·.id)))

theorem accepted_offerNode (nodes : List NodeRow) :
    Network.offerNode.accepted 0 nodes Network.empty = firsts (·.id) nodes := by
  have hcheck : ∀ (kept : List NodeRow) (_ : Nat) (row : NodeRow),
      firstFailure (row.checks (kept.map (·.id))) = none ↔
        (fun _ => true) row = true ∧ row.id ∉ kept.map (·.id) := by
    intro kept _ row
    simp [row.firstFailure_checks_eq_none_iff]
  have h := Network.follows_offerNode.accepted_eq_firsts (·.id) hcheck Network.empty
    Network.holdsRoads_empty 0 nodes
  simpa using h

theorem holdsRoads_importedNodes (nodes : List NodeRow) :
    (importedNodes nodes).HoldsRoads (firsts (·.id) nodes) [] := by
  have h := Network.follows_offerNode.after Network.empty Network.holdsRoads_empty 0 nodes
  simpa [accepted_offerNode, importedNodes] using h

theorem accepted_offerSection (nodes : List NodeRow) (sections : List SectionRow) :
    Network.offerSection.accepted 0 sections (importedNodes nodes) =
      firsts (·.id) (validSections nodes sections) := by
  have h := (Network.follows_offerSection (firsts (·.id) nodes)).accepted_eq_firsts (·.id)
    (fun kept position row => row.firstFailure_checks_eq_none_iff _ _ position)
    (importedNodes nodes) (holdsRoads_importedNodes nodes) 0 sections
  rw [SectionRow.isValid_congr fun _ => mem_map_firsts] at h
  simpa [validSections] using h

/-- The roads of an import are those of the first node row of each id and of the first valid section
row of each id. -/
theorem holdsRoads_importedRoads (nodes : List NodeRow) (sections : List SectionRow) :
    (importedRoads nodes sections).HoldsRoads (firsts (·.id) nodes)
      (firsts (·.id) (validSections nodes sections)) := by
  have h := (Network.follows_offerSection (firsts (·.id) nodes)).after
    (importedNodes nodes) (holdsRoads_importedNodes nodes) 0 sections
  simpa [accepted_offerSection, importedRoads] using h

end Multimodal
