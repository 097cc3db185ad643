import Multimodal.Network.Json
import Multimodal.Proofs.Decoding
import Multimodal.Proofs.IntegerDoubles
import Multimodal.Proofs.Json.Readings

/-!
# Decoders and the encodings they undo

The parts that stored records are made of. Each is decoded from its encoding to what it was:
integers (`asInt64_ofInt64`), octets (`asOctets_ofOctets`), maps of plain data (`asMap_members`),
places and edges (`asEdge_ofEdge`). A record is decoded from an object field by field
(`asRecord_zip`).

The other way round, a value that a text can hold decodes to finite doubles (`isFinite_of_asFloat`)
and to maps that nest no deeper than it does (`depth_le_of_asMap`).
-/
namespace Multimodal.Json

variable {α : Type}

/-! ## Numbers -/

theorem asInteger_int {format : Number.IntegerFormat} {n : Int} (h : format.contains n = true) :
    asInteger format (.int n) = .ok n := if_pos h

theorem asInt64_ofInt64 (n : Int64) : asInt64 (ofInt64 n) = .ok n := by
  rw [asInt64, ofInt64, asInteger_int (Number.contains_int64 n), Except.map, Int64.ofInt_toInt]

theorem asUInt32_ofNat (n : UInt32) : asUInt32 (ofNat n.toNat) = .ok n := by
  have hlt := n.toNat_lt
  have hvalue : ((n.toNat : Int) % 2 ^ 32).toNat = n.toNat := by omega
  rw [asUInt32, ofNat, asInteger_int (Number.contains_uint32 n), Except.map, UInt32.ofInt, hvalue,
    UInt32.ofNat_toNat]

theorem asUInt64_ofNat (n : UInt64) : asUInt64 (ofNat n.toNat) = .ok n := by
  have hlt := n.toNat_lt
  have hvalue : ((n.toNat : Int) % 2 ^ 64).toNat = n.toNat := by omega
  rw [asUInt64, ofNat, asInteger_int (Number.contains_uint64 n), Except.map, UInt64.ofInt, hvalue,
    UInt64.ofNat_toNat]

theorem asList_ofList {decode : Json → Decoded α} {encode : α → Json} {items : List α}
    (h : ∀ a ∈ items, decode (encode a) = .ok a) :
    asList decode (ofList encode items) = .ok items :=
  mapM_map_eq_ok h

theorem asOctets_ofOctets (octets : List UInt8) : asOctets (ofOctets octets) = .ok octets := by
  refine asList_ofList fun octet _ => ?_
  have hlt := octet.toNat_lt
  have hcontains : Number.IntegerFormat.contains ⟨0, 255, 10⟩ octet.toNat = true := by
    simp only [Number.IntegerFormat.contains, decide_eq_true_eq]
    omega
  have hvalue : ((octet.toNat : Int) % 2 ^ 8).toNat = octet.toNat := by omega
  rw [ofNat, asInteger_int hcontains, Except.map, UInt8.ofInt, hvalue, UInt8.ofNat_toNat]

/-- A double that a text can hold is finite, also where it is written as an integer. -/
theorem isFinite_of_asFloat {levels : Nat} {v : Json} {x : Float} (hv : Held levels v)
    (h : asFloat v = .ok x) : x.isFinite = true := by
  cases v with
  | int n =>
    have hkeeps : keepsInteger n = true := hv.sane (.int n) List.mem_cons_self
    simp only [keepsInteger, decide_eq_true_eq] at hkeeps
    cases h
    exact Number.isFinite_integer (by omega)
  | real y =>
    cases h
    exact hv.sane (.real x) List.mem_cons_self
  | _ => cases h

/-! ## Records -/

theorem asRecord_zip {fields : List (RecordField Json α)} {values : List Json} (r : α)
    (hnames : (fields.map (·.name)).Nodup) (hlength : values.length = fields.length) :
    asRecord fields r (.obj ((fields.map (·.name)).zip values)) =
      RecordField.readInOrder fields values r :=
  RecordField.readNamed_zip _ r hnames hlength

/-- What every field of a record keeps on the parts of a value holds of the decoded record. -/
theorem keeps_asRecord {levels : Nat} {fields : List (RecordField Json α)} {P : α → Prop}
    {start r : α} {v : Json} (hv : Held levels v)
    (hfields : ∀ f ∈ fields, f.Keeps (Held (levels - 1)) P) (hstart : P start)
    (h : asRecord fields start v = .ok r) : P r := by
  cases v with
  | obj members => exact RecordField.keeps_readNamed hfields (held_object.mp hv).2 hstart h
  | arr items => exact RecordField.keeps_readInOrder hfields (held_array.mp hv).2 hstart h
  | _ => cases h

/-! ## Maps of plain data -/

theorem insertMember_eq_append {name : String} (value : Json) {map : List (String × Json)}
    (h : ∀ m ∈ map, m.1 < name) : insertMember name value map = map ++ [(name, value)] := by
  induction map with
  | nil => rfl
  | cons m rest ih =>
    rw [List.forall_mem_cons] at h
    rw [insertMember, if_neg (String.lt_asymm h.1), if_neg (String.ne_of_lt h.1).symm, ih h.2,
      List.cons_append]

theorem pairwise_of_isAscending : ∀ {members : List (String × Json)},
    isAscending members = true → members.Pairwise (·.1 < ·.1)
  | [], _ => .nil
  | [_], _ => List.pairwise_singleton _ _
  | (name, _) :: (next, value) :: rest, h => by
    rw [isAscending, Bool.and_eq_true, decide_eq_true_eq] at h
    have hrest := pairwise_of_isAscending h.2
    refine .cons (fun m hm => ?_) hrest
    rcases List.mem_cons.mp hm with rfl | hm
    · exact h.1
    · exact String.lt_trans h.1 (List.rel_of_pairwise_cons hrest hm)

/-- Members that go on in ascending order are added to the end of a map. -/
theorem foldl_insertMember_eq_append {members done : List (String × Json)}
    (h : (done ++ members).Pairwise (·.1 < ·.1)) :
    members.foldl (fun map m => insertMember m.1 m.2 map) done = done ++ members := by
  induction members generalizing done with
  | nil => exact (List.append_nil done).symm
  | cons m rest ih =>
    have hlast : ∀ other ∈ done, other.1 < m.1 := fun other hother =>
      (List.pairwise_append.mp h).2.2 other hother m List.mem_cons_self
    rw [List.foldl_cons, insertMember_eq_append m.2 hlast, ih (by simpa using h),
      List.append_assoc, List.singleton_append]

theorem toMap_eq_self {members : List (String × Json)} (h : isAscending members = true) :
    toMap members = members :=
  @foldl_insertMember_eq_append members [] (pairwise_of_isAscending h)

theorem mem_of_mem_insertMember {name : String} {value : Json} {map : List (String × Json)}
    {m : String × Json} (h : m ∈ insertMember name value map) : m = (name, value) ∨ m ∈ map := by
  induction map with
  | nil => exact .inl (List.mem_singleton.mp h)
  | cons other rest ih =>
    rw [insertMember] at h
    split at h
    · exact List.mem_cons.mp h
    · split at h
      · exact (List.mem_cons.mp h).imp_right (List.mem_cons_of_mem _)
      · rcases List.mem_cons.mp h with rfl | hrest
        · exact .inr List.mem_cons_self
        · exact (ih hrest).imp_right (List.mem_cons_of_mem _)

theorem mem_of_mem_foldl_insertMember {members map : List (String × Json)} {m : String × Json}
    (h : m ∈ members.foldl (fun map m => insertMember m.1 m.2 map) map) :
    m ∈ map ∨ m ∈ members := by
  induction members generalizing map with
  | nil => exact .inl h
  | cons other rest ih =>
    rcases ih h with hmap | hrest
    · rcases mem_of_mem_insertMember hmap with rfl | hmap
      · exact .inr List.mem_cons_self
      · exact .inl hmap
    · exact .inr (List.mem_cons_of_mem _ hrest)

theorem mem_of_mem_toMap {members : List (String × Json)} {m : String × Json}
    (h : m ∈ toMap members) : m ∈ members :=
  (mem_of_mem_foldl_insertMember h).resolve_left List.not_mem_nil

mutual

theorem normalize_eq_self : ∀ {v : Json}, v.isPlain = true → v.normalize = v
  | .null, _ => rfl
  | .bool _, _ => rfl
  | .int _, _ => rfl
  | .real _, _ => rfl
  | .str _, _ => rfl
  | .arr items, h => by rw [normalize, normalizeItems_eq_self h]
  | .obj members, h => by
    rw [isPlain, Bool.and_eq_true] at h
    rw [normalize, normalizeMembers_eq_self h.2, toMap_eq_self h.1]

theorem normalizeItems_eq_self : ∀ {items : List Json}, arePlain items = true →
    normalizeItems items = items
  | [], _ => rfl
  | item :: rest, h => by
    rw [arePlain, Bool.and_eq_true] at h
    rw [normalizeItems, normalize_eq_self h.1, normalizeItems_eq_self h.2]

theorem normalizeMembers_eq_self : ∀ {members : List (String × Json)},
    membersPlain members = true → normalizeMembers members = members
  | [], _ => rfl
  | (name, value) :: rest, h => by
    rw [membersPlain, Bool.and_eq_true] at h
    rw [normalizeMembers, normalize_eq_self h.1, normalizeMembers_eq_self h.2]

end

mutual

/-- Plain data can be used. -/
theorem isReadable_of_isPlain : ∀ {v : Json}, v.isPlain = true → v.isReadable = true
  | .null, _ => rfl
  | .bool _, _ => rfl
  | .int _, _ => rfl
  | .real _, _ => rfl
  | .str _, _ => rfl
  | .arr _, h => areReadable_of_arePlain h
  | .obj members, h => by
    rw [isPlain, Bool.and_eq_true] at h
    exact membersReadable_of_membersPlain h.2

theorem areReadable_of_arePlain : ∀ {items : List Json}, arePlain items = true →
    areReadable items = true
  | [], _ => rfl
  | item :: rest, h => by
    rw [arePlain, Bool.and_eq_true] at h
    rw [areReadable, isReadable_of_isPlain h.1, areReadable_of_arePlain h.2]
    rfl

theorem membersReadable_of_membersPlain : ∀ {members : List (String × Json)},
    membersPlain members = true → membersReadable members = true
  | [], _ => rfl
  | (name, value) :: rest, h => by
    rw [membersPlain, Bool.and_eq_true] at h
    rw [membersReadable, isReadable_of_isPlain h.1, membersReadable_of_membersPlain h.2]
    rfl

end

/-- A map of plain data is decoded from its members. -/
theorem asMap_members (m : Map) : asMap (.obj m.members) = .ok m := by
  have hplain := m.plain
  rw [isPlain, Bool.and_eq_true] at hplain
  have hmap : toMap (normalizeMembers m.members) = m.members := by
    rw [normalizeMembers_eq_self hplain.2, toMap_eq_self hplain.1]
  simp only [asMap, hmap]
  exact dif_pos ⟨membersReadable_of_membersPlain hplain.2, m.plain⟩

mutual

/-- The plain value nests no deeper. -/
theorem depth_normalize_le : ∀ v : Json, v.normalize.depth ≤ v.depth
  | .arr items => by
    have := itemsDepth_normalizeItems_le items
    rw [normalize, depth, depth]
    omega
  | .obj members => by
    have hmap : membersDepth (toMap (normalizeMembers members)) ≤
        membersDepth (normalizeMembers members) :=
      membersDepth_le_iff.mpr fun m hm =>
        membersDepth_le_iff.mp (Nat.le_refl _) m (mem_of_mem_toMap hm)
    have := membersDepth_normalizeMembers_le members
    rw [normalize, depth, depth]
    omega
  | .null => Nat.le_refl _
  | .bool _ => Nat.le_refl _
  | .int _ => Nat.le_refl _
  | .real _ => Nat.le_refl _
  | .str _ => Nat.le_refl _
  | .unreadable => Nat.le_refl _
  | .unnamed => Nat.le_refl _
  | .broken => Nat.le_refl _

theorem itemsDepth_normalizeItems_le : ∀ items : List Json,
    itemsDepth (normalizeItems items) ≤ itemsDepth items
  | [] => Nat.le_refl _
  | item :: rest => by
    have := depth_normalize_le item
    have := itemsDepth_normalizeItems_le rest
    rw [normalizeItems, itemsDepth, itemsDepth]
    omega

theorem membersDepth_normalizeMembers_le : ∀ members : List (String × Json),
    membersDepth (normalizeMembers members) ≤ membersDepth members
  | [] => Nat.le_refl _
  | (name, value) :: rest => by
    have := depth_normalize_le value
    have := membersDepth_normalizeMembers_le rest
    rw [normalizeMembers, membersDepth, membersDepth]
    omega

end

/-- A decoded map nests no deeper than the value it was decoded from. -/
theorem depth_le_of_asMap {v : Json} {m : Map} (h : asMap v = .ok m) :
    (Json.obj m.members).depth ≤ v.depth := by
  cases v with
  | obj members =>
    simp only [asMap] at h
    split at h
    · cases h
      exact depth_normalize_le (.obj members)
    · cases h
  | _ => cases h

/-! ## Places -/

theorem asVertex_ofVertex (v : Vertex) : asVertex (ofVertex v) = .ok v := by
  cases v with
  | road node => simp only [ofVertex, asVertex, asUInt32_ofNat, Except.map]
  | transit network stop =>
    have hplace : asRecord transitPlaceFields (0, 0)
        (.obj [("network", ofNat network.toNat), ("stop", ofNat stop.toNat)]) =
          .ok (network, stop) := by
      have hzip := @asRecord_zip _ transitPlaceFields [ofNat network.toNat, ofNat stop.toNat]
        (0, 0) (by decide) rfl
      refine hzip.trans ?_
      simp only [transitPlaceFields, RecordField.readInOrder, RecordField.required, asUInt64_ofNat,
        asUInt32_ofNat, Except.map]
    simp only [ofVertex, asVertex, hplace, Except.map]

theorem asEdge_ofEdge (e : Edge) : asEdge (ofEdge e) = .ok e := by
  have hzip := @asRecord_zip _ edgeFields [ofVertex e.source, ofVertex e.target] default
    (by decide) rfl
  refine hzip.trans ?_
  simp only [edgeFields, RecordField.readInOrder, RecordField.required, asVertex_ofVertex,
    Except.map]

end Multimodal.Json
