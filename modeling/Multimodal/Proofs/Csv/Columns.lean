import Mathlib.Data.List.Forall2
import Multimodal.Proofs.Csv.Cells
import Multimodal.Proofs.Csv.Writing
import Multimodal.Proofs.Decoding

/-!
# Tables of rows

A table has a column for each field of its rows, in any order. Reading a row goes from cell to cell
and fills in one field after another, so what is known of the row at any time is told by the names
of the columns that were read (`Restores`); in the end that is the whole row, whatever the order.

* `readNamed_of_restores`: reading the cells of a row under their names gives the row.
* `readTable_write`: reading a written table gives its rows.
-/
namespace Multimodal.Csv

variable {ρ : Type}

/-- A column of a table: its name, and the text that it has for a row. -/
structure Column (ρ : Type) where
  name : String
  text : ρ → String

/-- The records of a table: the names of the columns, then for each row its texts. -/
def table (columns : List (Column ρ)) (rows : List ρ) : List Record :=
  (columns.map fun c => cellOf c.name) ::
    rows.map fun row => columns.map fun c => cellOf (c.text row)

/-! ## Reading the cells of a row -/

/-- Reading the cells of a row fills in the row. `known` says what is known of it once the cells
under some names are read. -/
structure Restores (fields : List (RecordField String ρ)) (columns : List (Column ρ)) (row : ρ)
    (known : List String → ρ) : Prop where
  read : ∀ column ∈ columns, ∀ names, ∃ field,
    RecordField.find? fields column.name = some field ∧
      field.read (Text.trimmed (column.text row)) (known names) =
        .ok (known (column.name :: names))
  complete : ∀ names, (∀ column ∈ columns, column.name ∈ names) → known names = row
  required : ∀ field ∈ fields, field.omission = .never →
    ∃ column ∈ columns, column.name = field.name

/-- Reading the cells that are left gives the row, in whatever order they stand. -/
theorem readNamed_of_restores {fields : List (RecordField String ρ)} {columns : List (Column ρ)}
    {row : ρ} {known : List String → ρ} (h : Restores fields columns row known)
    (ignorable : String → Bool) (left : List (Column ρ)) (names : List String)
    (hleft : ∀ column ∈ left, column ∈ columns ∧ column.name ∉ names)
    (hnodup : (left.map (·.name)).Nodup)
    (hall : ∀ column ∈ columns, column ∈ left ∨ column.name ∈ names) :
    RecordField.readNamed fields ignorable
      (left.map fun c => (c.name, Text.trimmed (c.text row))) names (known names) = .ok row := by
  have hreveals : ∀ m ∈ left.map fun c => (c.name, Text.trimmed (c.text row)),
      RecordField.Reveals fields known m :=
    List.forall_mem_map.mpr fun column hcolumn => h.read column (hleft column hcolumn).1
  have hnames := RecordField.fieldNames_eq_map hreveals
  rw [List.map_map] at hnames
  have hread := @RecordField.readNamed_of_reveals _ _ fields ignorable known
    (left.map fun c => (c.name, Text.trimmed (c.text row))) names
    (fun m hm => .inl (hreveals m hm)) ?_ ?_ ?_
  · rw [hread, hnames]
    refine congrArg Except.ok (h.complete _ fun column hcolumn => ?_)
    rw [List.mem_append, List.mem_reverse]
    exact (hall column hcolumn).imp_left List.mem_map_of_mem
  · rw [hnames]
    exact hnodup
  · rw [hnames]
    exact List.forall_mem_map.mpr fun column hcolumn => (hleft column hcolumn).2
  · intro field hfield hnever
    obtain ⟨column, hcolumn, hname⟩ := h.required field hfield hnever
    rw [hnames, ← hname]
    exact (hall column hcolumn).imp_left List.mem_map_of_mem

/-! ## Reading a table -/

/-- Whether names can head a table: two or more that differ, without white space at their ends and
without the mark of UTF-8 at the front. -/
def isHeader (names : List String) : Bool :=
  decide (names.Nodup) && decide (2 ≤ names.length) &&
    names.all fun name => Text.isTight name && (cellOf name).head? != some 0xEF

theorem isHeader_perm {names others : List String} (h : names.Perm others) :
    isHeader names = isHeader others := by
  rw [isHeader, isHeader, h.length_eq, h.all_eq]
  simp only [h.nodup_iff]

theorem readRow_of_restores {fields : List (RecordField String ρ)} {start : ρ}
    {columns order : List (Column ρ)} (horder : order.Perm columns)
    (hheader : isHeader (order.map (·.name)) = true) {row : ρ} {known : List String → ρ}
    (hstart : known [] = start) (h : Restores fields columns row known) :
    readRow fields start (order.map fun c => cellOf c.name)
      (order.map fun c => cellOf (c.text row)) = .ok row := by
  simp only [isHeader, Bool.and_eq_true, decide_eq_true_eq, List.all_map, List.all_eq_true,
    Function.comp_apply] at hheader
  obtain ⟨⟨hnodup, -⟩, hnames⟩ := hheader
  have htexts : Record.texts? (order.map fun c => cellOf (c.text row)) =
      some (order.map fun c => Text.trimmed (c.text row)) := by
    simpa [Function.comp_def] using texts?_map_cellOf (order.map fun c => c.text row)
  have hheaderTexts : Record.texts? (order.map fun c => cellOf c.name) =
      some (order.map (·.name)) := by
    have htight : order.map (fun c => Text.trimmed c.name) = order.map (·.name) :=
      List.map_congr_left fun c hc => Text.trimmed_of_isTight (hnames c hc).1
    rw [← htight]
    simpa [Function.comp_def] using texts?_map_cellOf (order.map (·.name))
  have hread := readNamed_of_restores h (fun _ => true) order []
    (fun column hcolumn => ⟨horder.mem_iff.mp hcolumn, List.not_mem_nil⟩) hnodup
    (fun column hcolumn => .inl (horder.mem_iff.mpr hcolumn))
  rw [hstart] at hread
  simp only [readRow, List.length_map, ne_eq, not_true_eq_false, if_false, htexts, hheaderTexts,
    readFields, List.zip_map', hread]
  rfl

theorem readRows_of_forall₂ {fields : List (RecordField String ρ)} {start : ρ} {header : Record}
    {records : List Record} {rows : List ρ}
    (h : List.Forall₂ (fun record row => readRow fields start header record = .ok row) records rows)
    (position : Nat) : readRows fields start header position records = .ok rows := by
  induction h generalizing position with
  | nil => rfl
  | cons hrow _ ih => rw [readRows, hrow, ih]; rfl

/-- Reading a written table gives its rows, if every row is restored from its cells. -/
theorem readTable_write {fields : List (RecordField String ρ)} {start : ρ}
    {columns order : List (Column ρ)} (hheader : isHeader (columns.map (·.name)) = true)
    (horder : order.Perm columns) {rows : List ρ}
    (hrows : ∀ row ∈ rows, ∃ known, known [] = start ∧ Restores fields columns row known)
    (d : Dialect) : readTable fields start (d.write (table order rows)) = .ok rows := by
  rw [← isHeader_perm (horder.map _)] at hheader
  have hparts := hheader
  simp only [isHeader, Bool.and_eq_true, decide_eq_true_eq, List.all_map, List.all_eq_true,
    Function.comp_apply, List.length_map, bne_iff_ne] at hparts
  obtain ⟨⟨-, hwide⟩, hnames⟩ := hparts
  have hrecords : records (d.write (table order rows)) = table order rows := by
    apply records_write
    · intro cell hcell
      obtain ⟨column, hcolumn, rfl⟩ := List.mem_map.mp hcell
      exact (hnames column hcolumn).2
    · simp [hwide]
  rw [readTable, hrecords]
  apply readRows_of_forall₂
  rw [List.forall₂_map_left_iff, List.forall₂_same]
  intro row hrow
  obtain ⟨known, hstart, hrestores⟩ := hrows row hrow
  exact readRow_of_restores horder hheader hstart hrestores

end Multimodal.Csv
