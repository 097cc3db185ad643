import Multimodal.Records

/-!
# What is checked of a row

Every kind of rows has a list of checks, in the order in which they are made. A check compares a row
with the ids of the records it may refer to and the ids of its own kind that are taken; nothing else
of the network matters. The failure of a row is that of the first check it does not pass.

Apart from its id being new, what a row has to satisfy is the row's validity (`SectionRow.isValid`,
`StopRow.isValid`, `ConnectionRow.isValid`): a row passes its checks exactly if it is valid and its
id is new.
-/
namespace Multimodal

/-- Whether a row passes, and its failure if it does not. -/
structure Check where
  passes : Bool
  failure : Failure

/-- The failure of the first check that is not passed. -/
def firstFailure (checks : List Check) : Option Failure :=
  (checks.find? fun check => !check.passes).map (·.failure)

theorem firstFailure_nil : firstFailure [] = none := rfl

theorem firstFailure_cons (check : Check) (rest : List Check) :
    firstFailure (check :: rest) =
      if check.passes then firstFailure rest else some check.failure := by
  cases h : check.passes <;> simp [firstFailure, h]

theorem firstFailure_eq_none_iff (checks : List Check) :
    firstFailure checks = none ↔ ∀ check ∈ checks, check.passes = true := by
  simp [firstFailure]

theorem exists_of_firstFailure_eq_some {checks : List Check} {failure : Failure}
    (h : firstFailure checks = some failure) :
    ∃ check ∈ checks, check.passes = false ∧ check.failure = failure := by
  simp only [firstFailure, Option.map_eq_some_iff] at h
  obtain ⟨check, hfind, rfl⟩ := h
  exact ⟨check, List.mem_of_find?_eq_some hfind, by simpa using List.find?_some hfind, rfl⟩

/-! ## Roads -/

/-- The checks of a node row, `nodes` being the ids taken. -/
def NodeRow.checks (nodes : List RecordId) (row : NodeRow) : List Check :=
  [⟨!nodes.contains row.id, .duplicateId .roadNode row.id⟩]

/-- Whether a section row has no class code or one of the seven. -/
def SectionRow.hasClass (row : SectionRow) : Bool :=
  row.roadType.all fun code => decide (1 ≤ code.toInt ∧ code.toInt ≤ 7)

/-- Whether the length of a section row is finite and not negative. -/
def SectionRow.hasLength (row : SectionRow) : Bool :=
  row.length.isFinite && decide (0.0 ≤ row.length)

/-- Whether a section row joins two of `nodes` and has a class and a length that make sense. -/
def SectionRow.isValid (nodes : List RecordId) (row : SectionRow) : Bool :=
  nodes.contains row.nodeFrom && nodes.contains row.nodeTo && row.hasClass && row.hasLength

/-- The checks of a section row, `nodes` being the ids of nodes and `sections` the ids taken. -/
def SectionRow.checks (nodes sections : List RecordId) (position : Nat) (row : SectionRow) :
    List Check :=
  [ ⟨nodes.contains row.nodeFrom,
      .danglingReference .roadSection position (some row.id) "node_from" .roadNode row.nodeFrom⟩,
    ⟨nodes.contains row.nodeTo,
      .danglingReference .roadSection position (some row.id) "node_to" .roadNode row.nodeTo⟩,
    ⟨!sections.contains row.id, .duplicateId .roadSection row.id⟩,
    ⟨row.hasClass,
      .malformedRecord .roadSection position (.unknownRoadType row.id (row.roadType.getD 0))⟩,
    ⟨row.hasLength, .malformedRecord .roadSection position (.invalidLength row.id row.length)⟩ ]

/-! ## Public transport -/

/-- Whether a stop row lies between the ends of one of `sections`. -/
def StopRow.isValid (sections : List RecordId) (row : StopRow) : Bool :=
  decide (0.0 ≤ row.abscissa ∧ row.abscissa ≤ 1.0) && sections.contains row.roadSection

/-- The checks of a stop row, `sections` being the ids of road sections and `stops` the ids taken.
-/
def StopRow.checks (sections stops : List RecordId) (position : Nat) (row : StopRow) : List Check :=
  [ ⟨!stops.contains row.id, .duplicateId .stop row.id⟩,
    ⟨decide (0.0 ≤ row.abscissa ∧ row.abscissa ≤ 1.0),
      .malformedRecord .stop position (.abscissaOutside row.id row.abscissa)⟩,
    ⟨sections.contains row.roadSection,
      .danglingReference .stop position (some row.id) "road_section_id" .roadSection
        row.roadSection⟩ ]

def ConnectionRow.isValid (stops : List RecordId) (row : ConnectionRow) : Bool :=
  stops.contains row.stopFrom && stops.contains row.stopTo

def ConnectionRow.checks (stops : List RecordId) (position : Nat) (row : ConnectionRow) :
    List Check :=
  [ ⟨stops.contains row.stopFrom,
      .danglingReference .transitSection position none "stop_from" .stop row.stopFrom⟩,
    ⟨stops.contains row.stopTo,
      .danglingReference .transitSection position none "stop_to" .stop row.stopTo⟩ ]

/-! ## Only which ids there are matters -/

variable {ids others : List RecordId}

theorem SectionRow.isValid_congr (h : ∀ id, id ∈ ids ↔ id ∈ others) :
    SectionRow.isValid ids = SectionRow.isValid others := by
  funext row
  simp only [isValid, List.contains_eq_mem, h]

theorem StopRow.isValid_congr (h : ∀ id, id ∈ ids ↔ id ∈ others) :
    StopRow.isValid ids = StopRow.isValid others := by
  funext row
  simp only [isValid, List.contains_eq_mem, h]

theorem ConnectionRow.isValid_congr (h : ∀ id, id ∈ ids ↔ id ∈ others) :
    ConnectionRow.isValid ids = ConnectionRow.isValid others := by
  funext row
  simp only [isValid, List.contains_eq_mem, h]

/-! ## Passing all checks -/

theorem NodeRow.firstFailure_checks_eq_none_iff (nodes : List RecordId) (row : NodeRow) :
    firstFailure (row.checks nodes) = none ↔ row.id ∉ nodes := by
  simp [firstFailure_eq_none_iff, NodeRow.checks]

theorem SectionRow.firstFailure_checks_eq_none_iff (nodes sections : List RecordId) (position : Nat)
    (row : SectionRow) :
    firstFailure (row.checks nodes sections position) = none ↔
      row.isValid nodes = true ∧ row.id ∉ sections := by
  simp only [firstFailure_eq_none_iff, SectionRow.checks, SectionRow.isValid, List.forall_mem_cons,
    Bool.and_eq_true, Bool.not_eq_true', List.contains_eq_mem, decide_eq_false_iff_not]
  constructor
  · rintro ⟨hfrom, hto, hnew, hclass, hlength, -⟩
    exact ⟨⟨⟨⟨hfrom, hto⟩, hclass⟩, hlength⟩, hnew⟩
  · rintro ⟨⟨⟨⟨hfrom, hto⟩, hclass⟩, hlength⟩, hnew⟩
    exact ⟨hfrom, hto, hnew, hclass, hlength, by simp⟩

theorem StopRow.firstFailure_checks_eq_none_iff (sections stops : List RecordId) (position : Nat)
    (row : StopRow) :
    firstFailure (row.checks sections stops position) = none ↔
      row.isValid sections = true ∧ row.id ∉ stops := by
  simp only [firstFailure_eq_none_iff, StopRow.checks, StopRow.isValid, List.forall_mem_cons,
    Bool.and_eq_true, Bool.not_eq_true', List.contains_eq_mem, decide_eq_false_iff_not]
  constructor
  · rintro ⟨hnew, hplaced, hsection, -⟩
    exact ⟨⟨hplaced, hsection⟩, hnew⟩
  · rintro ⟨⟨hplaced, hsection⟩, hnew⟩
    exact ⟨hnew, hplaced, hsection, by simp⟩

theorem ConnectionRow.firstFailure_checks_eq_none_iff (stops : List RecordId) (position : Nat)
    (row : ConnectionRow) :
    firstFailure (row.checks stops position) = none ↔ row.isValid stops = true := by
  simp [firstFailure_eq_none_iff, ConnectionRow.checks, ConnectionRow.isValid]

end Multimodal
