import Multimodal.Proofs.ConfigurationChecks
import Multimodal.Proofs.Csv.RowTables
import Multimodal.Proofs.Decoding
import Multimodal.Proofs.Outcome

/-!
# Importing from directories and from memory

Rows that are stored as tables, one directory for the roads and one for each public transport
network, are imported as if they were held in memory. How the tables are written is left open: each
may have its columns in an order of its own, its own line ends, and more quotes than it needs.

* `Configuration.source_of_stores`: the tables of a configuration deliver the stored rows.
* `Configuration.importNetwork_of_stores`: the import is that of the rows.
-/
namespace Multimodal

/-! ## Stored rows -/

/-- The file at a path is a table of rows, its columns in any order. -/
def Storage.HasTable {ρ : Type} (s : Storage) (path : String) (columns : List (Csv.Column ρ))
    (rows : List ρ) : Prop :=
  ∃ (d : Csv.Dialect) (order : List (Csv.Column ρ)), order.Perm columns ∧
    s.read path = .ok (d.write (Csv.table order rows))

/-- The rows of a public transport network are stored in its directory, doubles in the form that
`write` gives them. -/
structure TransitDirectory.Stores (storage : Storage) (write : Float → String)
    (d : TransitDirectory) (t : TransitRows) : Prop where
  id : d.id = t.networkId
  name : d.name = t.name
  isDirectory : storage.isDirectory d.dir = true
  stops : storage.HasTable (joinPath d.dir stopFile) (StopRow.columns write) t.stops
  connections :
    storage.HasTable (joinPath d.dir connectionFile) ConnectionRow.columns t.connections

/-- Rows are stored in the directories of a configuration, which names the networks in their order.
-/
structure Configuration.Stores (storage : Storage) (write : Float → String) (c : Configuration)
    (rows : MemoryRows) : Prop where
  isDirectory : storage.isDirectory c.roadDir = true
  nodes : storage.HasTable (joinPath c.roadDir nodeFile) NodeRow.columns rows.nodes
  sections : storage.HasTable (joinPath c.roadDir sectionFile) (SectionRow.columns write)
    rows.sections
  networks : List.Forall₂ (TransitDirectory.Stores storage write) c.transit rows.networks

def MemoryRows.texts (rows : MemoryRows) : List String :=
  rows.sections.flatMap SectionRow.texts ++
    rows.networks.flatMap fun t => t.stops.flatMap StopRow.texts

def MemoryRows.doubles (rows : MemoryRows) : List Float :=
  rows.sections.flatMap SectionRow.doubles ++
    rows.networks.flatMap fun t => t.stops.flatMap StopRow.doubles

/-- Rows can be stored: no two networks have one id, no text begins or ends with white space, and
every double is read back from the text that `write` gives it. -/
structure MemoryRows.Storable (write : Float → String) (rows : MemoryRows) : Prop where
  networkIds : (rows.networks.map (·.networkId)).Nodup
  texts : ∀ text ∈ rows.texts, Text.isTight text = true
  doubles : ∀ x ∈ rows.doubles, Csv.floatOf (Text.trimmed (write x)) = .ok x

/-! ## Reading tables -/

/-- A table is read as its rows, if each of them is restored from its cells. -/
theorem readRowsAt_of_hasTable {ρ : Type} {storage : Storage} {path : String}
    {fields : List (RecordField String ρ)} {start : ρ} {columns : List (Csv.Column ρ)}
    {rows : List ρ} (h : storage.HasTable path columns rows)
    (hheader : Csv.isHeader (columns.map (·.name)) = true)
    (hrows : ∀ row ∈ rows, ∃ known, known [] = start ∧ Csv.Restores fields columns row known)
    (kind : RecordKind) : readRowsAt storage fields start kind path = .ok rows := by
  obtain ⟨d, order, horder, hread⟩ := h
  rw [readRowsAt, hread]
  simp only [Csv.readTable_write hheader horder hrows d, Except.mapError]

section
variable {storage : Storage} {write : Float → String} {path : String}

theorem readNodeRows_of_hasTable {rows : List NodeRow}
    (h : storage.HasTable path NodeRow.columns rows) : readNodeRows storage path = .ok rows :=
  readRowsAt_of_hasTable h (by decide +kernel) (fun row _ => ⟨row.known, rfl, row.restores⟩) _

theorem readSectionRows_of_hasTable {rows : List SectionRow}
    (h : storage.HasTable path (SectionRow.columns write) rows)
    (htexts : ∀ row ∈ rows, ∀ text ∈ row.texts, Text.isTight text = true)
    (hdoubles : ∀ row ∈ rows, ∀ x ∈ row.doubles,
      Csv.floatOf (Text.trimmed (write x)) = .ok x) :
    readSectionRows storage path = .ok rows := by
  have hheader : Csv.isHeader ((SectionRow.columns write).map (·.name)) = true := by
    simp only [SectionRow.columns, List.map_cons, List.map_nil]
    decide +kernel
  refine readRowsAt_of_hasTable h hheader (fun row hrow => ?_) _
  exact ⟨row.known, rfl, SectionRow.restores (htexts row hrow) (hdoubles row hrow)⟩

theorem readStopRows_of_hasTable {rows : List StopRow}
    (h : storage.HasTable path (StopRow.columns write) rows)
    (htexts : ∀ row ∈ rows, ∀ text ∈ row.texts, Text.isTight text = true)
    (hdoubles : ∀ row ∈ rows, ∀ x ∈ row.doubles,
      Csv.floatOf (Text.trimmed (write x)) = .ok x) :
    readStopRows storage path = .ok rows := by
  have hheader : Csv.isHeader ((StopRow.columns write).map (·.name)) = true := by
    simp only [StopRow.columns, List.map_cons, List.map_nil]
    decide +kernel
  refine readRowsAt_of_hasTable h hheader (fun row hrow => ?_) _
  exact ⟨row.known, rfl, StopRow.restores (htexts row hrow) (hdoubles row hrow)⟩

theorem readConnectionRows_of_hasTable {rows : List ConnectionRow}
    (h : storage.HasTable path ConnectionRow.columns rows) :
    readConnectionRows storage path = .ok rows :=
  readRowsAt_of_hasTable h (by decide +kernel) (fun row _ => ⟨row.known, rfl, row.restores⟩) _

end

/-! ## A whole configuration -/

theorem TransitDirectory.rows_of_stores {storage : Storage} {write : Float → String}
    {d : TransitDirectory} {t : TransitRows} (h : d.Stores storage write t)
    (htexts : ∀ row ∈ t.stops, ∀ text ∈ row.texts, Text.isTight text = true)
    (hdoubles : ∀ row ∈ t.stops, ∀ x ∈ row.doubles,
      Csv.floatOf (Text.trimmed (write x)) = .ok x) :
    d.rows storage = .ok t := by
  have hstops := readStopRows_of_hasTable h.stops htexts hdoubles
  have hconnections := readConnectionRows_of_hasTable h.connections
  simp only [TransitDirectory.rows, hstops, hconnections, h.id, h.name, bind, Except.bind, pure,
    Except.pure]

namespace Configuration

variable {storage : Storage} {write : Float → String} {c : Configuration} {rows : MemoryRows}

theorem check_of_stores (h : c.Stores storage write rows)
    (hids : (rows.networks.map (·.networkId)).Nodup) : c.check storage.isDirectory = .ok () := by
  have hsame : rows.networks.map (·.networkId) = c.transit.map (·.id) :=
    map_eq_map_of_forall₂_eq (fun _ _ hd => hd.id.symm) h.networks
  have hdirs : ∀ d ∈ c.transit, storage.isDirectory d.dir = true :=
    forall_mem_of_forall₂ (P := fun _ => True) (fun _ _ hd _ => hd.isDirectory) h.networks.flip
      fun _ _ => trivial
  rw [hsame] at hids
  exact check_eq_ok_iff.mpr ⟨h.isDirectory, hdirs, hids⟩

theorem source_of_stores (h : c.Stores storage write rows) (hrows : rows.Storable write) :
    c.source storage = rows.source := by
  have htexts := hrows.texts
  have hdoubles := hrows.doubles
  simp only [MemoryRows.texts, MemoryRows.doubles, List.forall_mem_append,
    List.forall_mem_flatMap] at htexts hdoubles
  have hnodes := readNodeRows_of_hasTable h.nodes
  have hsections := readSectionRows_of_hasTable h.sections htexts.1 hdoubles.1
  have hnetworks : c.transit.mapM (TransitDirectory.rows storage) = .ok rows.networks := by
    obtain ⟨hlength, hstores⟩ := List.forall₂_iff_zip.mp h.networks
    rw [mapM_eq_ok_iff, List.forall₂_iff_zip]
    refine ⟨hlength, fun {d t} hmem => ?_⟩
    have ht := (List.of_mem_zip hmem).2
    exact TransitDirectory.rows_of_stores (hstores hmem) (htexts.2 t ht) (hdoubles.2 t ht)
  rw [source, hnodes, hsections, hnetworks]
  rfl

/-- An import from directories is the import of the rows stored there: it announces the same
progress and ends with the same network or the same failure. -/
theorem importNetwork_of_stores (h : c.Stores storage write rows) (hrows : rows.Storable write) :
    (c.importNetwork storage).outcome = (Multimodal.importNetwork rows.source c.options).outcome ∧
      (c.importNetwork storage).progress =
        (Multimodal.importNetwork rows.source c.options).progress := by
  rw [importNetwork, check_of_stores h hrows.networkIds, source_of_stores h hrows]
  generalize Multimodal.importNetwork rows.source c.options = report
  constructor
  · rfl
  · rfl

end Configuration

/-- Rows with the least and the greatest id, with commas, quotes and a line break in their texts,
and with values that are absent. -/
def harbour : MemoryRows where
  nodes := [{ id := Int64.minValue, isJunction := true }, { id := Int64.maxValue }]
  sections :=
    [ { id := 7, roadType := some 4, nodeFrom := Int64.minValue, nodeTo := Int64.maxValue
        forwardModes := 4294967295, length := 12.5, roadName := "Quai \"Nord\", gate 2"
        lanes := -1, isBridge := true },
      { id := 8, nodeFrom := Int64.maxValue, nodeTo := Int64.maxValue } ]
  networks :=
    [ { networkId := 3, name := "ferry"
        stops :=
          [ { id := 1, name := "Pier\n1", isStation := true, roadSection := 7, zone := "a,b" },
            { id := 2, name := "\"\"", parentStation := some 1, roadSection := 8
              abscissa := 0.25 },
            { id := 3, parentStation := some 0, roadSection := 8, abscissa := 1 } ]
        connections := [⟨1, 2⟩, ⟨2, 3⟩] } ]

/-- Directories that store `harbour`, with columns from the last to the first in one file. -/
def harbourStorage : Storage where
  isDirectory path := path == "roads" || path == "ferry"
  read path :=
    let text? : Option String :=
      match path with
      | "roads/road_node.csv" =>
        some ("id,is_junction,is_bifurcation\n" ++
          "-9223372036854775808,true,false\n" ++
          "9223372036854775807,false,false\n")
      | "roads/road_section.csv" =>
        some ("is_tollway,is_ramp,is_tunnel,is_bridge,is_roundabout,lane_count,address_right," ++
          "address_left,road_name,transit_average_speed,car_average_speed,car_speed_limit," ++
          "length,transport_type_backward,transport_type_forward,node_to,node_from,road_type," ++
          "id\r\n" ++
          "false,false,false,true,false,-1,,,\"Quai \"\"Nord\"\", gate 2\",0,0,0,12.5,0," ++
          "4294967295,9223372036854775807,-9223372036854775808,4,7\r\n" ++
          "false,false,false,false,false,0,,,,0,0,0,0,0,0,9223372036854775807," ++
          "9223372036854775807,,8\r\n")
      | "ferry/pt_stop.csv" =>
        some ("id,name,is_station,parent_station,road_section_id,zone_id,abscissa\n" ++
          "1,\"Pier\n1\",true,,7,\"a,b\",0\n" ++
          "2,\"\"\"\"\"\",false,1,8,,0.25\n" ++
          "3,,false,0,8,,1\n")
      | "ferry/pt_section.csv" => some "stop_from,stop_to\r1,2\r2,3\r"
      | _ => none
    text?.elim (.error .notFound) fun text => .ok text.toUTF8.data.toList

def harbourConfiguration : Configuration where
  roadDir := "roads"
  transit := [⟨3, "ferry", "ferry"⟩]
  options := ⟨.fail, .twoPass⟩

theorem stores_harbour : harbourConfiguration.Stores harbourStorage Number.plainText harbour where
  isDirectory := by decide +kernel
  nodes := ⟨.plain .lf, NodeRow.columns, .refl _, by decide +kernel⟩
  sections :=
    ⟨.plain .crlf, (SectionRow.columns _).reverse, List.reverse_perm _, by decide +kernel⟩
  networks :=
    .cons
      { id := rfl
        name := rfl
        isDirectory := by decide +kernel
        stops := ⟨.plain .lf, StopRow.columns _, .refl _, by decide +kernel⟩
        connections := ⟨.plain .cr, ConnectionRow.columns, .refl _, by decide +kernel⟩ }
      .nil

theorem storable_harbour : harbour.Storable Number.plainText where
  networkIds := by decide +kernel
  texts := by decide +kernel
  doubles := by decide +kernel

theorem importNetwork_of_stores_harbour :
    harbourConfiguration.Stores harbourStorage Number.plainText harbour ∧
      harbour.Storable Number.plainText ∧
      (harbourConfiguration.importNetwork harbourStorage).outcome =
        .ok (harbour.imported .twoPass) ∧
      (harbour.imported .twoPass).transit.toList.map (·.stopCount) = [3] := by
  obtain ⟨houtcome, -⟩ := Configuration.importNetwork_of_stores stores_harbour storable_harbour
  have hmemory : (importNetwork harbour.source ⟨.fail, .twoPass⟩).outcome =
      .ok (harbour.imported .twoPass) :=
    (outcome_importNetwork_fail_eq_ok_iff harbour .twoPass _).mpr ⟨by decide +kernel, rfl⟩
  exact ⟨stores_harbour, storable_harbour, houtcome.trans hmemory, by decide +kernel⟩

end Multimodal
