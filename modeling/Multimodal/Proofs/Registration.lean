import Multimodal.Import.Acceptance
import Multimodal.Proofs.RelatedLists

/-!
# Indexes as lists of ids

The handles of an index count up from zero in the order of registration, so an index that was filled
by an import says no more than a list of ids does: the handle of an id is its place in the list.
-/
namespace Multimodal

namespace IdIndex

/-- An index says of every id at which place of a list it stands. The list then repeats no id. -/
structure Lists (index : IdIndex) (kind : RecordKind) (ids : List RecordId) : Prop where
  kind_eq : index.kind = kind
  get?_eq_some : ∀ (id : RecordId) (handle : Nat),
    index.get? id = some handle ↔ ids[handle]? = some id

variable {index : IdIndex} {kind : RecordKind} {ids : List RecordId}

theorem get?_of_not_contains {id : RecordId} (h : index.contains id = false) :
    index.get? id = none := by
  simpa [contains_eq_isSome] using h

/-- A handle that a reference leads to is that of the id. -/
theorem get?_of_follow {source : RecordKind} {position : Nat} {record : Option RecordId}
    {field : String} {id : RecordId} {handle : Handle}
    (h : index.follow source position record field id = .ok handle) :
    index.get? id = some handle := by
  unfold follow at h
  split at h
  · rename_i hfound
    rw [hfound, Except.ok.inj h]
  · cases h

theorem exists_register {id : RecordId} (hnew : index.get? id = none) (handle : Handle) :
    ∃ next, index.register id handle = .ok next := by
  rw [register_eq, hnew]
  exact ⟨_, rfl⟩

theorem lists_empty (kind : RecordKind) : (empty kind).Lists kind [] := ⟨rfl, by simp⟩

theorem Lists.get?_eq_none (h : index.Lists kind ids) (id : RecordId) :
    index.get? id = none ↔ id ∉ ids := by
  rw [Option.eq_none_iff_forall_ne_some, List.mem_iff_getElem?]
  simp [h.get?_eq_some]

theorem Lists.contains_iff (h : index.Lists kind ids) (id : RecordId) :
    index.contains id = true ↔ id ∈ ids := by
  rw [contains_eq_isSome, Option.isSome_iff_ne_none, ne_eq, h.get?_eq_none]
  simp

theorem Lists.place_unique (h : index.Lists kind ids) {id : RecordId} {handle other : Nat}
    (hhandle : ids[handle]? = some id) (hother : ids[other]? = some id) : handle = other := by
  rw [← h.get?_eq_some] at hhandle hother
  exact Option.some.inj (hhandle.symm.trans hother)

/-- The list says all about an index. -/
theorem Lists.unique {other : IdIndex} (h : index.Lists kind ids) (h' : other.Lists kind ids) :
    index = other := by
  have hhandles : index.handles = other.handles := by
    apply Std.ExtTreeMap.ext_getElem?
    intro id
    apply Option.ext
    intro handle
    exact (h.get?_eq_some id handle).trans (h'.get?_eq_some id handle).symm
  have hkind : index.kind = other.kind := h.kind_eq.trans h'.kind_eq.symm
  obtain ⟨_, _⟩ := index
  obtain ⟨_, _⟩ := other
  simp only at hkind hhandles
  rw [hkind, hhandles]

theorem Lists.register (h : index.Lists kind ids) {id : RecordId} (hnew : id ∉ ids) :
    ∃ next, index.register id ids.length = .ok next ∧ next.Lists kind (ids ++ [id]) := by
  obtain ⟨next, hregister⟩ := exists_register ((h.get?_eq_none id).mpr hnew) ids.length
  refine ⟨next, hregister, ⟨(kind_register hregister).trans h.kind_eq, ?_⟩⟩
  intro other handle
  rw [get?_register hregister, List.getElem?_append]
  by_cases hlt : handle < ids.length
  · rw [if_pos hlt]
    by_cases ho : other = id
    · have hfar : ids[handle]? ≠ some other := fun hi => hnew (ho ▸ List.mem_of_getElem? hi)
      have hne : ids.length ≠ handle := by omega
      simp [ho, hne, ho ▸ hfar]
    · rw [if_neg ho, h.get?_eq_some]
  · rw [if_neg hlt, List.getElem?_singleton]
    by_cases ho : other = id
    · have heq : ids.length = handle ↔ handle - ids.length = 0 := by omega
      simp [ho, heq]
    · have hnone : ids[handle]? = none := List.getElem?_eq_none (by omega)
      rw [if_neg ho, h.get?_eq_some, hnone]
      simp [Ne.symm ho]

/-- A reference to a listed id leads to its place. -/
theorem Lists.follow_of_mem (h : index.Lists kind ids) {id : RecordId} (hmem : id ∈ ids)
    (source : RecordKind) (position : Nat) (record : Option RecordId) (field : String) :
    ∃ handle, index.follow source position record field id = .ok handle ∧
      ids[handle]? = some id := by
  obtain ⟨handle, hhandle⟩ := List.mem_iff_getElem?.mp hmem
  exact ⟨handle, by simp [follow, (h.get?_eq_some id handle).mpr hhandle], hhandle⟩

theorem Lists.follow_of_not_mem (h : index.Lists kind ids) {id : RecordId} (hnew : id ∉ ids)
    (source : RecordKind) (position : Nat) (record : Option RecordId) (field : String) :
    index.follow source position record field id =
      .error (.danglingReference source position record field kind id) := by
  simp [follow, (h.get?_eq_none id).mpr hnew, h.kind_eq]

end IdIndex

end Multimodal
