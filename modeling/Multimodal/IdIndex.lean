import Std.Data.ExtTreeMap
import Multimodal.Failure

/-!
# Ids and handles

Records name each other by stored ids; a graph names its vertices and arcs by handles, which count
up from zero. An index maps the ids of one kind of records to handles. It is write-once: the first
handle registered under an id stays.
-/
namespace Multimodal

/-- A vertex or an arc of a graph, counted from zero in the order in which they were added. -/
abbrev Handle := Nat

/-- A write-once map from ids to handles, for one kind of records. -/
structure IdIndex where
  kind : RecordKind
  handles : Std.ExtTreeMap RecordId Handle := ∅

namespace IdIndex

def empty (kind : RecordKind) : IdIndex := { kind }

/-- mirrors `get` -/
def get? (index : IdIndex) (id : RecordId) : Option Handle := index.handles[id]?

/-- mirrors `contains` -/
def contains (index : IdIndex) (id : RecordId) : Bool := index.handles.contains id

/-- The handle of an id, or the failure that names it.
mirrors `resolve` -/
def resolve (index : IdIndex) (id : RecordId) : Except Failure Handle :=
  match index.get? id with
  | some handle => .ok handle
  | none => .error (.unknownId index.kind id)

/-- Registers an id that is new.
mirrors `register` -/
def register (index : IdIndex) (id : RecordId) (handle : Handle) : Except Failure IdIndex :=
  if index.contains id then .error (.duplicateId index.kind id)
  else .ok { index with handles := index.handles.insert id handle }

/-- mirrors `len` -/
def size (index : IdIndex) : Nat := index.handles.size

/-- mirrors `is_empty` -/
def isEmpty (index : IdIndex) : Bool := index.size == 0

/-- The ids in ascending order, each with its handle.
mirrors `iter` -/
def toList (index : IdIndex) : List (RecordId × Handle) := index.handles.toList

@[simp] theorem get?_empty (kind : RecordKind) (id : RecordId) : (empty kind).get? id = none := by
  simp [empty, get?]

theorem contains_eq_isSome (index : IdIndex) (id : RecordId) :
    index.contains id = (index.get? id).isSome := by
  simp [contains, get?]

/-- Registering answers with the larger index if the id is new and refuses it otherwise. -/
theorem register_eq (index : IdIndex) (id : RecordId) (handle : Handle) :
    index.register id handle =
      if (index.get? id).isSome then .error (.duplicateId index.kind id)
      else .ok { index with handles := index.handles.insert id handle } := by
  simp only [register, contains_eq_isSome]

theorem get?_register {index next : IdIndex} {id : RecordId} {handle : Handle}
    (h : index.register id handle = .ok next) (other : RecordId) :
    next.get? other = if other = id then some handle else index.get? other := by
  rw [register_eq] at h
  split at h
  · cases h
  · simp only [Except.ok.injEq] at h
    subst h
    simp only [get?, Std.ExtTreeMap.getElem?_insert, Std.LawfulEqCmp.compare_eq_iff_eq]
    simp only [eq_comm]

theorem kind_register {index next : IdIndex} {id : RecordId} {handle : Handle}
    (h : index.register id handle = .ok next) : next.kind = index.kind := by
  rw [register_eq] at h
  split at h
  · cases h
  · simp only [Except.ok.injEq] at h
    subst h
    rfl

theorem mem_toList {index : IdIndex} {id : RecordId} {handle : Handle} :
    (id, handle) ∈ index.toList ↔ index.get? id = some handle :=
  Std.ExtTreeMap.mem_toList_iff_getElem?_eq_some

end IdIndex

end Multimodal
