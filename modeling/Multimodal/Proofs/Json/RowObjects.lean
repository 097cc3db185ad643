import Multimodal.Proofs.Csv.RowTables
import Multimodal.Proofs.Json.Exports

/-!
# Rows as objects

A row is encoded as an object of its fields. The object may be written in another order, with more
members under names that are no field's, and without those that just say what every row holds at
first: it is decoded to the row all the same (`rows_of_objects`), as a value and from its text. The
fields of a connection have to be there.

What is decoded is told by the names of the members that are there (`asRecord_of_spells`), as for
the cells of a table.
-/
namespace Multimodal.Json

open RecordField (find? fieldNames Reveals)

def members : Json → List (String × Json)
  | .obj members => members
  | _ => []

variable {ρ : Type}

/-- Members that spell a record, in any order: some of its own, and others that are added under
names that are not its own. -/
structure Spells (own kept added members : List (String × Json)) : Prop where
  perm : members.Perm (kept ++ added)
  sublist : kept.Sublist own
  unknown : ∀ m ∈ added, m.1 ∉ own.map (·.1)

/-- A value without parts of its own, and a number only if a text can hold it. -/
structure IsAtom (v : Json) : Prop where
  readable : v.isReadable = true
  flat : v.depth = 0
  sane : ∀ leaf ∈ v.leaves, IsSane leaf

theorem IsAtom.seen {v : Json} (h : IsAtom v) (levels : Nat) : seen levels v = v :=
  seen_eq_self h.readable (h.flat ▸ levels.zero_le) fun _ hx => h.sane _ hx

/-- Members that encode a record: one for each field, which makes known what the record holds
there. -/
structure Encodes (fields : List (RecordField Json ρ)) (own : List (String × Json))
    (known : List String → ρ) : Prop where
  names : own.map (·.1) = fields.map (·.name)
  nodup : (own.map (·.1)).Nodup
  reveals : ∀ m ∈ own, Reveals fields known m
  /-- It makes no difference in which order names became known. -/
  order : ∀ names others, (∀ name, name ∈ names ↔ name ∈ others) → known names = known others
  atoms : ∀ m ∈ own, IsAtom m.2

section Encodes

variable {fields : List (RecordField Json ρ)} {own kept added members : List (String × Json)}
  {known : List String → ρ}

theorem find?_eq_none_of_unknown (h : Encodes fields own known) {name : String}
    (hname : name ∉ own.map (·.1)) : find? fields name = none := by
  rw [h.names] at hname
  rw [find?, List.find?_eq_none]
  intro f hf heq
  exact hname (List.mem_map.mpr ⟨f, hf, beq_iff_eq.mp heq⟩)

/-- Members that spell a record are decoded to what they make known of it, if those that must be
there are. -/
theorem asRecord_of_spells (h : Encodes fields own known) (hspells : Spells own kept added members)
    (hadded : ∀ m ∈ added, m.2.isPassable = true)
    (hrequired : ∀ f ∈ fields, f.omission = .never → f.name ∈ kept.map (·.1)) :
    asRecord fields (known []) (.obj members) = .ok (known (kept.map (·.1))) := by
  have hreveals : ∀ m ∈ kept, Reveals fields known m :=
    fun m hm => h.reveals m (hspells.sublist.mem hm)
  have hnone : ∀ m ∈ added, find? fields m.1 = none :=
    fun m hm => find?_eq_none_of_unknown h (hspells.unknown m hm)
  have hnames : (fieldNames fields members).Perm (kept.map (·.1)) := by
    have hperm := @RecordField.fieldNames_perm _ _ fields _ _ hspells.perm
    rwa [RecordField.fieldNames_append, RecordField.fieldNames_eq_map hreveals,
      RecordField.fieldNames_eq_nil hnone, List.append_nil] at hperm
  have hread := @RecordField.readNamed_of_reveals _ _ fields Medium.text.isIgnorable known members
    [] ?_ ?_ (fun _ _ => List.not_mem_nil) ?_
  · rw [asRecord, asRecordIn, hread]
    refine congrArg Except.ok (h.order _ _ fun name => ?_)
    rw [List.append_nil, List.mem_reverse, hnames.mem_iff]
  · intro m hm
    rcases List.mem_append.mp (hspells.perm.mem_iff.mp hm) with hkept | hnew
    · exact .inl (hreveals m hkept)
    · exact .inr ⟨hnone m hnew, hadded m hnew⟩
  · rw [hnames.nodup_iff]
    exact h.nodup.sublist (hspells.sublist.map _)
  · intro f hf hnever
    rw [hnames.mem_iff]
    exact .inl (hrequired f hf hnever)

/-! ## From text -/

mutual

theorem isWhole_seen (levels : Nat) : ∀ v : Json, (seen levels v).isWhole = true
  | .null => rfl
  | .bool _ => rfl
  | .int _ => rfl
  | .str _ => rfl
  | .unreadable => rfl
  | .unnamed => rfl
  | .broken => rfl
  | .real x => by
    rw [seen]
    split <;> rfl
  | .arr items => by
    rw [seen]
    split
    · rfl
    · exact areWhole_itemsSeen _ items
  | .obj members => by
    rw [seen]
    split
    · rfl
    · exact membersWhole_membersSeen _ members

theorem areWhole_itemsSeen (levels : Nat) : ∀ items : List Json,
    areWhole (itemsSeen levels items) = true
  | [] => rfl
  | item :: rest => by
    rw [itemsSeen, areWhole, isWhole_seen levels item, areWhole_itemsSeen levels rest]
    rfl

theorem membersWhole_membersSeen (levels : Nat) : ∀ members : List (String × Json),
    membersWhole (membersSeen levels members) = true
  | [] => rfl
  | (name, value) :: rest => by
    rw [membersSeen, membersWhole, isWhole_seen levels value, membersWhole_membersSeen levels rest]
    rfl

end

theorem seen_ne_unnamed (levels : Nat) (v : Json) : seen levels v ≠ .unnamed := by
  cases v <;> rw [seen] <;> try split
  all_goals nofun

/-- Whatever was printed can be passed over. -/
theorem isPassable_seen (levels : Nat) (v : Json) : (seen levels v).isPassable = true := by
  unfold isPassable
  split
  · rename_i hunnamed
    exact absurd hunnamed (seen_ne_unnamed levels v)
  · exact isWhole_seen levels v

/-- The numbers of an object come back from their texts: integers are of sixty-four bits, and the
text of a finite double is read as the double. -/
theorem readsBack_of_spells (h : Encodes fields own known) (hspells : Spells own kept added members)
    (hdoubles : ∀ x ∈ (Json.obj members).reals, x.isFinite = true →
      readNumber (Number.jsonText x) = some (.real x, []))
    (hintegers : ∀ n, .int n ∈ membersLeaves added → keepsInteger n = true) :
    ∀ leaf ∈ (Json.obj members).leaves, ReadsBack leaf := by
  intro leaf hleaf
  cases leaf with
  | int n =>
    obtain ⟨m, hm, hmem⟩ := mem_membersLeaves.mp hleaf
    rcases List.mem_append.mp (hspells.perm.mem_iff.mp hm) with hkept | hnew
    · exact (h.atoms m (hspells.sublist.mem hkept)).sane _ hmem
    · exact hintegers n (mem_membersLeaves.mpr ⟨m, hnew, hmem⟩)
  | real x => exact hdoubles x (mem_reals.mpr hleaf)
  | _ => trivial

/-- What is seen of members that spell a record spells it as well. -/
theorem spells_membersSeen (h : Encodes fields own known) (hspells : Spells own kept added members)
    (levels : Nat) :
    Spells own kept (membersSeen levels added) (membersSeen levels members) where
  perm := by
    have hkept : kept.map (fun m => (m.1, seen levels m.2)) = kept := by
      refine (List.map_congr_left fun m hm => ?_).trans (List.map_id kept)
      rw [(h.atoms m (hspells.sublist.mem hm)).seen]
      rfl
    have hperm := hspells.perm.map fun m => (m.1, seen levels m.2)
    rwa [List.map_append, hkept, ← membersSeen_eq_map, ← membersSeen_eq_map] at hperm
  sublist := hspells.sublist
  unknown := by
    intro m hm
    rw [membersSeen_eq_map] at hm
    obtain ⟨member, hmember, rfl⟩ := List.mem_map.mp hm
    exact hspells.unknown member hmember

/-- A record is decoded from the objects that spell it. `initial` are members that say what every
record holds at first, and `required` the names that must be there. -/
structure FromObjects (decode : Json → Decoded ρ) (own initial : List (String × Json))
    (required : List String) (known : List String → ρ) (r : ρ) : Prop where
  /-- Whichever members are left out, what the others say is known. -/
  partly : ∀ {kept added members}, Spells own kept added members →
    (∀ name ∈ required, name ∈ kept.map (·.1)) → (∀ m ∈ added, m.2.isPassable = true) →
    decode (.obj members) = .ok (known (kept.map (·.1)))
  /-- That is the whole record when what is left out says nothing new. -/
  value : ∀ {kept added members}, Spells own kept added members →
    (∀ m ∈ own, m ∈ kept ∨ m ∈ initial) → (∀ m ∈ added, m.2.isPassable = true) →
    decode (.obj members) = .ok r
  /-- It is decoded from the text of the object if finite doubles come back from theirs. -/
  text : ∀ {kept added members}, Spells own kept added members →
    (∀ m ∈ own, m ∈ kept ∨ m ∈ initial) →
    (∀ x ∈ (Json.obj members).reals, x.isFinite = true →
      readNumber (Number.jsonText x) = some (.real x, [])) →
    (∀ n, .int n ∈ membersLeaves added → keepsInteger n = true) →
    decodeText decode (Json.obj members).print = .ok r
  missing : ∀ name ∈ required, ∀ members, (∀ m ∈ members, m.1 ≠ name) →
    (∃ fault, decode (.obj members) = .error fault) ∧
      ∀ text, (read text).value = .obj members → ∃ fault, decodeText decode text = .error fault

theorem fromObjects {start r : ρ} {initial : List (String × Json)} {required : List String}
    (h : Encodes fields own known) (hstart : known [] = start)
    (hknown : ∀ names, (∀ m ∈ own, m.1 ∈ names ∨ m ∈ initial) → known names = r)
    (hrequired : ∀ f ∈ fields, f.omission = .never ↔ f.name ∈ required)
    (hfields : ∀ name ∈ required, name ∈ fields.map (·.name))
    (hinitial : ∀ m ∈ initial, m.1 ∉ required) :
    FromObjects (asRecord fields start) own initial required known r := by
  subst hstart
  have hpartly : ∀ {kept added members}, Spells own kept added members →
      (∀ name ∈ required, name ∈ kept.map (·.1)) → (∀ m ∈ added, m.2.isPassable = true) →
      asRecord fields (known []) (.obj members) = .ok (known (kept.map (·.1))) :=
    fun hspells hkept hadded => asRecord_of_spells h hspells hadded fun f hf hnever =>
      hkept _ ((hrequired f hf).mp hnever)
  have hvalue : ∀ {kept added members}, Spells own kept added members →
      (∀ m ∈ own, m ∈ kept ∨ m ∈ initial) → (∀ m ∈ added, m.2.isPassable = true) →
      asRecord fields (known []) (.obj members) = .ok r := by
    intro kept added members hspells hkept hadded
    rw [← hknown (kept.map (·.1)) fun m hm => (hkept m hm).imp_left List.mem_map_of_mem]
    refine hpartly hspells (fun name hname => ?_) hadded
    -- its member is not one of those that may be left out
    have hown := hfields name hname
    rw [← h.names] at hown
    obtain ⟨m, hm, rfl⟩ := List.mem_map.mp hown
    exact List.mem_map_of_mem ((hkept m hm).resolve_right fun hfirst => hinitial m hfirst hname)
  refine ⟨hpartly, hvalue, ?_, ?_⟩
  · intro kept added members hspells hkept hdoubles hintegers
    have hread := read_print (readsBack_of_spells h hspells hdoubles hintegers)
    have hseen : seen maxDepth (.obj members) = .obj (membersSeen (maxDepth - 1) members) := rfl
    have hdecoded := hvalue (spells_membersSeen h hspells (maxDepth - 1)) hkept ?_
    · rw [decodeText, hread, hseen]
      simp only [hdecoded]
      rfl
    · rw [membersSeen_eq_map]
      exact List.forall_mem_map.mpr fun m _ => isPassable_seen _ m.2
  · intro name hname members hmembers
    obtain ⟨f, hf, rfl⟩ := List.mem_map.mp (hfields name hname)
    obtain ⟨fault, herror⟩ : ∃ fault, asRecord fields (known []) (.obj members) = .error fault :=
      RecordField.error_of_missing hf ((hrequired f hf).mpr hname) hmembers List.not_mem_nil
    refine ⟨⟨fault, herror⟩, fun text htext => ⟨fault, ?_⟩⟩
    rw [decodeText, htext, herror]
    rfl

end Encodes

end Multimodal.Json

/-! ## The values of rows -/

namespace Multimodal

open Json (ofInt64 ofNat ofOption Encodes IsAtom FromObjects)

namespace Json

theorem isAtom_bool (b : Bool) : IsAtom (.bool b) := ⟨rfl, rfl, by simp [leaves, IsSane]⟩

theorem isAtom_str (s : String) : IsAtom (.str s) := ⟨rfl, rfl, isSane_str s⟩

theorem isAtom_real {x : Float} (h : x.isFinite = true) : IsAtom (.real x) :=
  ⟨rfl, rfl, by simpa [leaves, IsSane] using h⟩

theorem isAtom_ofInt64 (n : Int64) : IsAtom (ofInt64 n) := ⟨rfl, rfl, isSane_ofInt64 n⟩

theorem isAtom_uint32 (n : UInt32) : IsAtom (ofNat n.toNat) :=
  ⟨rfl, rfl, isSane_ofNat (by have := n.toNat_lt; omega)⟩

theorem isAtom_int32 (n : Int32) : IsAtom (.int n.toInt) := by
  have hlow := n.le_toInt
  have hhigh := n.toInt_lt
  refine ⟨rfl, rfl, ?_⟩
  simp only [leaves, List.forall_mem_singleton, IsSane, keepsInteger, decide_eq_true_eq]
  omega

theorem isAtom_ofOption {α : Type} {encode : α → Json} (h : ∀ a, IsAtom (encode a))
    (a? : Option α) : IsAtom (ofOption encode a?) := by
  cases a? with
  | none => exact ⟨rfl, rfl, by simp [ofOption, leaves, IsSane]⟩
  | some a => exact h a

end Json

namespace RowFormat

@[simp] theorem json_int64 (n : Int64) : json.int64 (ofInt64 n) = .ok n := Json.asInt64_ofInt64 n

@[simp] theorem json_int32 (n : Int32) : json.int32 (.int n.toInt) = .ok n := by
  simp [json, Json.asInt32, Json.asInteger_int (Number.contains_int32 n), Except.map]

@[simp] theorem json_optionalInt32 (n? : Option Int32) :
    json.optionalInt32 (ofOption (fun n => .int n.toInt) n?) = .ok n? :=
  Json.asOptional_ofOption nofun fun n _ => json_int32 n

@[simp] theorem json_uint32 (n : UInt32) : json.uint32 (ofNat n.toNat) = .ok n :=
  Json.asUInt32_ofNat n

@[simp] theorem json_float (x : Float) : json.float (.real x) = .ok x := rfl

@[simp] theorem json_text (s : String) : json.text (.str s) = .ok s := rfl

@[simp] theorem json_flag (b : Bool) : json.flag (.bool b) = .ok b := rfl

@[simp] theorem json_optionalId (id : Option Int64) :
    json.optionalId (ofOption ofInt64 id) = .ok id := by
  cases id with
  | none => rfl
  | some n => simp [json, ofOption, ofInt64, Json.asOptionalId, Number.contains_int64 n]

end RowFormat

/-! ## The four kinds of rows -/

theorem kept_congr {α : Type} {names others : List String}
    (h : ∀ name, name ∈ names ↔ name ∈ others) (name : String) (value other : α) :
    kept names name value other = kept others name value other := by
  have hcontains : names.contains name = others.contains name := by
    rw [List.contains_eq_mem, List.contains_eq_mem]
    exact decide_eq_decide.mpr (h name)
  rw [kept, kept, hcontains]

/-- A value is known if its name is, or if it was known from the start. -/
theorem kept_eq {α : Type} {names : List String} {name : String} {value other : α}
    (h : name ∈ names ∨ value = other) : kept names name value other = value := by
  rcases h with hname | rfl
  · exact kept_of_mem value other hname
  · rw [kept, ite_self]

theorem NodeRow.encodes (r : NodeRow) :
    Encodes (NodeRow.fields .json) (Json.ofNodeRow r).members r.known where
  names := rfl
  nodup := by
    change ((fields RowFormat.json).map (·.name)).Nodup
    decide
  reveals := by
    simp [Json.ofNodeRow, Json.members, RecordField.Reveals, fields, known, RecordField.find?,
      RecordField.defaulted, Except.map, kept_cons_of_ne]
  order := fun names others h => by simp only [known, kept_congr h]
  atoms := by simp [Json.ofNodeRow, Json.members, Json.isAtom_ofInt64, Json.isAtom_bool]

theorem SectionRow.encodes {r : SectionRow} (hdoubles : ∀ x ∈ r.doubles, x.isFinite = true) :
    Encodes (SectionRow.fields .json) (Json.ofSectionRow r).members r.known where
  names := rfl
  nodup := by
    change ((fields RowFormat.json).map (·.name)).Nodup
    decide
  reveals := by
    simp [Json.ofSectionRow, Json.members, RecordField.Reveals, fields, known, RecordField.find?,
      RecordField.defaulted, Except.map, kept_cons_of_ne]
  order := fun names others h => by simp only [known, kept_congr h]
  atoms := by
    simp only [doubles, List.forall_mem_cons] at hdoubles
    simp [Json.ofSectionRow, Json.members, Json.isAtom_ofInt64, Json.isAtom_bool,
      Json.isAtom_ofOption, Json.isAtom_int32, Json.isAtom_uint32, Json.isAtom_str,
      Json.isAtom_real, hdoubles]

theorem StopRow.encodes {r : StopRow} (hdoubles : ∀ x ∈ r.doubles, x.isFinite = true) :
    Encodes (StopRow.fields .json) (Json.ofStopRow r).members r.known where
  names := rfl
  nodup := by
    change ((fields RowFormat.json).map (·.name)).Nodup
    decide
  reveals := by
    simp [Json.ofStopRow, Json.members, RecordField.Reveals, fields, known, RecordField.find?,
      RecordField.defaulted, Except.map, kept_cons_of_ne]
  order := fun names others h => by simp only [known, kept_congr h]
  atoms := by
    simp only [doubles, List.forall_mem_cons] at hdoubles
    simp [Json.ofStopRow, Json.members, Json.isAtom_ofInt64, Json.isAtom_bool,
      Json.isAtom_ofOption, Json.isAtom_str, Json.isAtom_real, hdoubles]

theorem ConnectionRow.encodes (r : ConnectionRow) :
    Encodes (ConnectionRow.fields .json) (Json.ofConnectionRow r).members r.known where
  names := rfl
  nodup := by
    change ((fields RowFormat.json).map (·.name)).Nodup
    decide
  reveals := by
    simp [Json.ofConnectionRow, Json.members, RecordField.Reveals, fields, known, RecordField.find?,
      RecordField.required, Except.map, kept_cons_of_ne]
  order := fun names others h => by simp only [known, kept_congr h]
  atoms := by simp [Json.ofConnectionRow, Json.members, Json.isAtom_ofInt64]

/-! ### Values that every row holds at first -/

namespace Json

theorem ofInt64_inj {m n : Int64} : ofInt64 m = ofInt64 n ↔ m = n := by
  simp [ofInt64, Int64.toInt_inj]

theorem ofNat_toNat_eq_zero {n : UInt32} : ofNat n.toNat = ofNat 0 ↔ n = 0 := by
  simp [ofNat, ← UInt32.toNat_inj]

theorem toInt_eq_zero {n : Int32} : n.toInt = 0 ↔ n = 0 := by
  simp [← Int32.toInt_inj]

theorem ofOption_eq_none {α : Type} {encode : α → Json} (hnull : ∀ a, encode a ≠ .null)
    {a? : Option α} : ofOption encode a? = ofOption encode none ↔ a? = none := by
  cases a? <;> simp [ofOption, hnull]

theorem ofOption_ofInt64_eq_none {id : Option Int64} :
    ofOption ofInt64 id = ofOption ofInt64 none ↔ id = none :=
  ofOption_eq_none nofun

theorem ofOption_int32_eq_none {n? : Option Int32} :
    ofOption (fun n => .int n.toInt) n? = ofOption (fun n : Int32 => .int n.toInt) none ↔
      n? = none :=
  ofOption_eq_none nofun

end Json

theorem NodeRow.known_eq {r : NodeRow} {names : List String}
    (h : ∀ m ∈ (Json.ofNodeRow r).members, m.1 ∈ names ∨ m ∈ (Json.ofNodeRow {}).members) :
    r.known names = r := by
  simp [Json.ofNodeRow, Json.members, Json.ofInt64_inj] at h
  simp [known, kept_eq, h]

theorem SectionRow.known_eq {r : SectionRow} {names : List String}
    (h : ∀ m ∈ (Json.ofSectionRow r).members, m.1 ∈ names ∨ m ∈ (Json.ofSectionRow {}).members) :
    r.known names = r := by
  simp [Json.ofSectionRow, Json.members, Json.ofInt64_inj, Json.ofOption_int32_eq_none,
    Json.ofNat_toNat_eq_zero, Json.toInt_eq_zero] at h
  simp [known, kept_eq, h]

theorem StopRow.known_eq {r : StopRow} {names : List String}
    (h : ∀ m ∈ (Json.ofStopRow r).members, m.1 ∈ names ∨ m ∈ (Json.ofStopRow {}).members) :
    r.known names = r := by
  simp [Json.ofStopRow, Json.members, Json.ofInt64_inj, Json.ofOption_ofInt64_eq_none] at h
  simp [known, kept_eq, h]

theorem ConnectionRow.known_eq {r : ConnectionRow} {names : List String}
    (h : ∀ m ∈ (Json.ofConnectionRow r).members, m.1 ∈ names) : r.known names = r := by
  simp [Json.ofConnectionRow, Json.members] at h
  simp [known, kept_of_mem, h]

/-- A row is decoded from its object with the members in any order, with further members under names
that are no field's, and without those that say what every row holds at first. It is decoded from
the text of the object as well. An object without one of the two stops is no connection.

Of the doubles in the object it is assumed that a finite one comes back from its own text. -/
theorem rows_of_objects (node : NodeRow) (road : SectionRow) (stop : StopRow)
    (connection : ConnectionRow) (hroad : ∀ x ∈ road.doubles, x.isFinite = true)
    (hstop : ∀ x ∈ stop.doubles, x.isFinite = true) :
    FromObjects Json.asNodeRow (Json.ofNodeRow node).members (Json.ofNodeRow {}).members []
      node.known node ∧
    FromObjects Json.asSectionRow (Json.ofSectionRow road).members
      (Json.ofSectionRow {}).members [] road.known road ∧
    FromObjects Json.asStopRow (Json.ofStopRow stop).members (Json.ofStopRow {}).members []
      stop.known stop ∧
    FromObjects Json.asConnectionRow (Json.ofConnectionRow connection).members []
      ["stop_from", "stop_to"] connection.known connection := by
  have hall : ∀ names, (∀ m ∈ (Json.ofConnectionRow connection).members, m.1 ∈ names ∨ m ∈ []) →
      connection.known names = connection :=
    fun names h => ConnectionRow.known_eq fun m hm => (h m hm).resolve_right List.not_mem_nil
  refine ⟨Json.fromObjects node.encodes rfl (fun names => NodeRow.known_eq) ?_ nofun nofun,
    Json.fromObjects (SectionRow.encodes hroad) rfl (fun names => SectionRow.known_eq) ?_ nofun
      nofun,
    Json.fromObjects (StopRow.encodes hstop) rfl (fun names => StopRow.known_eq) ?_ nofun nofun,
    Json.fromObjects connection.encodes rfl hall ?_ ?_ nofun⟩
  · simp [NodeRow.fields, RecordField.defaulted]
  · simp [SectionRow.fields, RecordField.defaulted]
  · simp [StopRow.fields, RecordField.defaulted]
  · simp [ConnectionRow.fields, RecordField.required]
  · simp [ConnectionRow.fields, RecordField.required]

/-- A stop whose station is the one with id zero. -/
def platform : StopRow := { id := 7, parentStation := some 0, abscissa := 12.5 }

def platformMembers : List (String × Json) :=
  [("id", .int 7), ("parent_station", .int 0), ("abscissa", .real 12.5)]

/-- A member that is no field. -/
def remark : String × Json := ("remark", .arr [.obj [("by", .null), ("by", .int 3)]])

theorem spells_platform : Json.Spells (Json.ofStopRow platform).members platformMembers [remark]
    (remark :: platformMembers.reverse) where
  perm := ((List.reverse_perm platformMembers).cons remark).trans
    (List.perm_append_comm : ([remark] ++ platformMembers).Perm _)
  sublist :=
    .cons_cons _ (.cons _ (.cons _ (.cons_cons _ (.cons _ (.cons _ (.cons_cons _ .slnil))))))
  unknown := by decide

theorem rows_of_objects_platform :
    Json.asStopRow (.obj (remark :: platformMembers.reverse)) = .ok platform ∧
      Json.decodeText Json.asStopRow (Json.obj (remark :: platformMembers.reverse)).print =
        .ok platform ∧
      ∃ fault, Json.asConnectionRow (.obj [("stop_from", .int 7), remark]) = .error fault := by
  obtain ⟨-, -, hstop, hconnection⟩ := rows_of_objects {} {} platform ⟨7, 8⟩
    (by
      simp only [SectionRow.doubles, List.forall_mem_cons]
      exact ⟨rfl, rfl, rfl, rfl, List.forall_mem_nil _⟩)
    (by
      simp only [StopRow.doubles, List.forall_mem_cons]
      exact ⟨rfl, List.forall_mem_nil _⟩)
  have hkept : ∀ m ∈ (Json.ofStopRow platform).members,
      m ∈ platformMembers ∨ m ∈ (Json.ofStopRow {}).members := by
    simp [Json.ofStopRow, Json.members, platform, platformMembers, ofInt64, ofOption]
  refine ⟨hstop.value spells_platform hkept ?_, hstop.text spells_platform hkept ?_ ?_,
    (hconnection.missing "stop_to" ?_ _ ?_).1⟩
  · simp [remark, Json.isPassable, Json.isWhole, Json.areWhole, Json.membersWhole]
  · have hreals : (Json.obj (remark :: platformMembers.reverse)).reals = [12.5] := by rfl
    simp only [hreals, List.forall_mem_singleton]
    exact fun _ => rfl
  · simp [Json.membersLeaves, remark, Json.leaves, Json.itemsLeaves, Json.keepsInteger]
  · decide
  · decide

end Multimodal
