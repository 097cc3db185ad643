import Multimodal.Proofs.Csv.Columns

/-!
# The tables of the four kinds of rows

Every kind of rows has its columns, one for each field. A row is restored from its cells: a node row
and a connection row always (`NodeRow.restores`, `ConnectionRow.restores`), a section row and a stop
row if their texts do not begin or end with white space and their doubles are read back from the
texts that `write` gives them (`SectionRow.restores`, `StopRow.restores`).
-/
namespace Multimodal

open Csv (Column Restores intText flagText optionText)

def NodeRow.columns : List (Column NodeRow) :=
  [ ⟨"id", fun r => intText r.id.toInt⟩,
    ⟨"is_junction", fun r => flagText r.isJunction⟩,
    ⟨"is_bifurcation", fun r => flagText r.isBifurcation⟩ ]

def SectionRow.columns (write : Float → String) : List (Column SectionRow) :=
  [ ⟨"id", fun r => intText r.id.toInt⟩,
    ⟨"road_type", fun r => optionText (fun code => intText code.toInt) r.roadType⟩,
    ⟨"node_from", fun r => intText r.nodeFrom.toInt⟩,
    ⟨"node_to", fun r => intText r.nodeTo.toInt⟩,
    ⟨"transport_type_forward", fun r => intText r.forwardModes.toNat⟩,
    ⟨"transport_type_backward", fun r => intText r.backwardModes.toNat⟩,
    ⟨"length", fun r => write r.length⟩,
    ⟨"car_speed_limit", fun r => write r.carSpeedLimit⟩,
    ⟨"car_average_speed", fun r => write r.carAverageSpeed⟩,
    ⟨"transit_average_speed", fun r => write r.transitAverageSpeed⟩,
    ⟨"road_name", fun r => r.roadName⟩,
    ⟨"address_left", fun r => r.leftAddresses⟩,
    ⟨"address_right", fun r => r.rightAddresses⟩,
    ⟨"lane_count", fun r => intText r.lanes.toInt⟩,
    ⟨"is_roundabout", fun r => flagText r.isRoundabout⟩,
    ⟨"is_bridge", fun r => flagText r.isBridge⟩,
    ⟨"is_tunnel", fun r => flagText r.isTunnel⟩,
    ⟨"is_ramp", fun r => flagText r.isRamp⟩,
    ⟨"is_tollway", fun r => flagText r.isTollway⟩ ]

def StopRow.columns (write : Float → String) : List (Column StopRow) :=
  [ ⟨"id", fun r => intText r.id.toInt⟩,
    ⟨"name", fun r => r.name⟩,
    ⟨"is_station", fun r => flagText r.isStation⟩,
    ⟨"parent_station", fun r => optionText (fun id => intText id.toInt) r.parentStation⟩,
    ⟨"road_section_id", fun r => intText r.roadSection.toInt⟩,
    ⟨"zone_id", fun r => r.zone⟩,
    ⟨"abscissa", fun r => write r.abscissa⟩ ]

def ConnectionRow.columns : List (Column ConnectionRow) :=
  [ ⟨"stop_from", fun r => intText r.stopFrom.toInt⟩,
    ⟨"stop_to", fun r => intText r.stopTo.toInt⟩ ]

/-! ## What is known of a row -/

/-- A value once its name is among the names read, and another one before. -/
def kept {α : Type} (names : List String) (name : String) (value other : α) : α :=
  if names.contains name then value else other

section
variable {α : Type} {names : List String} {name : String} (value other : α)

@[simp] theorem kept_nil (name : String) : kept [] name value other = other := rfl

@[simp] theorem kept_cons_self : kept (name :: names) name value other = value := by simp [kept]

theorem kept_cons_of_ne {last : String} (h : name ≠ last) :
    kept (last :: names) name value other = kept names name value other := by
  simp [kept, h]

theorem kept_of_mem (h : name ∈ names) : kept names name value other = value := by
  simp [kept, h]

end

/-- What is known of a node row once the cells under some names are read. -/
def NodeRow.known (r : NodeRow) (names : List String) : NodeRow where
  id := kept names "id" r.id 0
  isJunction := kept names "is_junction" r.isJunction false
  isBifurcation := kept names "is_bifurcation" r.isBifurcation false

/- The proofs below go column by column: the field of that name is found, the text of the row's
value is decoded to that value, and putting it into the row makes known what the name stands for. -/

theorem NodeRow.restores (r : NodeRow) :
    Restores (NodeRow.fields .cell) NodeRow.columns r r.known where
  read := by
    simp [columns, fields, known, RecordField.find?, RecordField.defaulted, Except.map,
      kept_cons_of_ne]
  complete := by
    intro names h
    simp only [columns, List.forall_mem_cons] at h
    simp [known, kept_of_mem, h]
  required := by simp [fields, RecordField.defaulted]

def SectionRow.known (r : SectionRow) (names : List String) : SectionRow where
  id := kept names "id" r.id 0
  roadType := kept names "road_type" r.roadType none
  nodeFrom := kept names "node_from" r.nodeFrom 0
  nodeTo := kept names "node_to" r.nodeTo 0
  forwardModes := kept names "transport_type_forward" r.forwardModes 0
  backwardModes := kept names "transport_type_backward" r.backwardModes 0
  length := kept names "length" r.length 0
  carSpeedLimit := kept names "car_speed_limit" r.carSpeedLimit 0
  carAverageSpeed := kept names "car_average_speed" r.carAverageSpeed 0
  transitAverageSpeed := kept names "transit_average_speed" r.transitAverageSpeed 0
  roadName := kept names "road_name" r.roadName ""
  leftAddresses := kept names "address_left" r.leftAddresses ""
  rightAddresses := kept names "address_right" r.rightAddresses ""
  lanes := kept names "lane_count" r.lanes 0
  isRoundabout := kept names "is_roundabout" r.isRoundabout false
  isBridge := kept names "is_bridge" r.isBridge false
  isTunnel := kept names "is_tunnel" r.isTunnel false
  isRamp := kept names "is_ramp" r.isRamp false
  isTollway := kept names "is_tollway" r.isTollway false

def SectionRow.texts (r : SectionRow) : List String :=
  [r.roadName, r.leftAddresses, r.rightAddresses]

def SectionRow.doubles (r : SectionRow) : List Float :=
  [r.length, r.carSpeedLimit, r.carAverageSpeed, r.transitAverageSpeed]

theorem SectionRow.restores {write : Float → String} {r : SectionRow}
    (htexts : ∀ text ∈ r.texts, Text.isTight text = true)
    (hdoubles : ∀ x ∈ r.doubles, Csv.floatOf (Text.trimmed (write x)) = .ok x) :
    Restores (SectionRow.fields .cell) (SectionRow.columns write) r r.known where
  read := by
    simp only [texts, doubles, List.forall_mem_cons] at htexts hdoubles
    simp [columns, fields, known, RecordField.find?, RecordField.defaulted, Except.map,
      kept_cons_of_ne, htexts, hdoubles, Text.trimmed_of_isTight]
  complete := by
    intro names h
    simp only [columns, List.forall_mem_cons] at h
    simp [known, kept_of_mem, h]
  required := by simp [fields, RecordField.defaulted]

def StopRow.known (r : StopRow) (names : List String) : StopRow where
  id := kept names "id" r.id 0
  name := kept names "name" r.name ""
  isStation := kept names "is_station" r.isStation false
  parentStation := kept names "parent_station" r.parentStation none
  roadSection := kept names "road_section_id" r.roadSection 0
  zone := kept names "zone_id" r.zone ""
  abscissa := kept names "abscissa" r.abscissa 0

def StopRow.texts (r : StopRow) : List String := [r.name, r.zone]

def StopRow.doubles (r : StopRow) : List Float := [r.abscissa]

theorem StopRow.restores {write : Float → String} {r : StopRow}
    (htexts : ∀ text ∈ r.texts, Text.isTight text = true)
    (hdoubles : ∀ x ∈ r.doubles, Csv.floatOf (Text.trimmed (write x)) = .ok x) :
    Restores (StopRow.fields .cell) (StopRow.columns write) r r.known where
  read := by
    simp only [texts, doubles, List.forall_mem_cons] at htexts hdoubles
    simp [columns, fields, known, RecordField.find?, RecordField.defaulted, Except.map,
      kept_cons_of_ne, htexts, hdoubles, Text.trimmed_of_isTight]
  complete := by
    intro names h
    simp only [columns, List.forall_mem_cons] at h
    simp [known, kept_of_mem, h]
  required := by simp [fields, RecordField.defaulted]

def ConnectionRow.known (r : ConnectionRow) (names : List String) : ConnectionRow where
  stopFrom := kept names "stop_from" r.stopFrom 0
  stopTo := kept names "stop_to" r.stopTo 0

theorem ConnectionRow.restores (r : ConnectionRow) :
    Restores (ConnectionRow.fields .cell) ConnectionRow.columns r r.known where
  read := by
    simp [columns, fields, known, RecordField.find?, RecordField.required, Except.map,
      kept_cons_of_ne]
  complete := by
    intro names h
    simp only [columns, List.forall_mem_cons] at h
    simp [known, kept_of_mem, h]
  required := by simp [fields, columns, RecordField.required]

end Multimodal
