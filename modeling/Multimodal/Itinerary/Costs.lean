import Multimodal.Number.Order

/-!
# Costs

What travelling costs, by several criteria at once. A set of costs holds a value for some of the
criteria; one that is not set reads as zero but is not present.

Values are of any type with an addition and an order, `CostValue`. The total of several sets adds up
the values of a criterion in ascending order, so it does not depend on the order of the sets, even
where addition rounds.
-/
namespace Multimodal

/-- The criteria by which routes are compared. -/
inductive Criterion where
  | distance
  | duration
  | price
  | carbon
  | calories
  | numberOfChanges
  | variability
  | pathComplexity
  | elevation
  | security
  | landmark
  deriving DecidableEq, Repr

namespace Criterion

/-- Every criterion, in the order of the codes. -/
def all : List Criterion :=
  [.distance, .duration, .price, .carbon, .calories, .numberOfChanges, .variability,
    .pathComplexity, .elevation, .security, .landmark]

/-- The place of a criterion in the order of the codes. -/
def index : Criterion → Fin 11
  | .distance => 0
  | .duration => 1
  | .price => 2
  | .carbon => 3
  | .calories => 4
  | .numberOfChanges => 5
  | .variability => 6
  | .pathComplexity => 7
  | .elevation => 8
  | .security => 9
  | .landmark => 10

/-- The criterion at a place. -/
def ofIndex (i : Fin 11) : Criterion := all[i]

/-- The code under which a criterion is stored; codes start at one.
mirrors `code` -/
def code (c : Criterion) : Nat := c.index.val + 1

def ofCode? (code : Int) : Option Criterion := all.find? fun c => (c.code : Int) == code

def name : Criterion → String
  | .distance => "distance"
  | .duration => "duration"
  | .price => "price"
  | .carbon => "carbon"
  | .calories => "calories"
  | .numberOfChanges => "number_of_changes"
  | .variability => "variability"
  | .pathComplexity => "path_complexity"
  | .elevation => "elevation"
  | .security => "security"
  | .landmark => "landmark"

@[simp] theorem ofIndex_index (c : Criterion) : ofIndex c.index = c := by cases c <;> rfl

theorem index_inj {c d : Criterion} (h : c.index = d.index) : c = d := by
  rw [← ofIndex_index c, h, ofIndex_index]

theorem mem_all (c : Criterion) : c ∈ all := by cases c <;> simp [all]

end Criterion

/-- Values that can be costs. -/
class CostValue (V : Type) where
  /-- What a cost that is not set reads as. -/
  zero : V
  /-- What a sum starts from. -/
  start : V
  add : V → V → V
  le : V → V → Bool

/-- Doubles are costs. Sums start from minus zero, which no addition shows. -/
instance : CostValue Float := ⟨0.0, -0.0, (· + ·), Number.totalLe⟩

/-- A value for some of the criteria. -/
structure Costs (V : Type) where
  slots : Vector (Option V) 11
  deriving DecidableEq, Repr

namespace Costs

variable {V : Type}

/-- The costs with a given value, or none, for each criterion. -/
def ofFn (f : Criterion → Option V) : Costs V := ⟨Vector.ofFn fun i => f (.ofIndex i)⟩

def empty : Costs V := ofFn fun _ => none

instance : Inhabited (Costs V) := ⟨empty⟩

/-- The value of a criterion if it is set. -/
def get? (costs : Costs V) (c : Criterion) : Option V := costs.slots[c.index]

def contains (costs : Costs V) (c : Criterion) : Bool := (costs.get? c).isSome

def set (costs : Costs V) (c : Criterion) (v : V) : Costs V :=
  ⟨costs.slots.set c.index (some v)⟩

/-- mirrors `remove` -/
def erase (costs : Costs V) (c : Criterion) : Costs V := ⟨costs.slots.set c.index none⟩

/-- The criteria that are set, in the order of the codes, with their values. -/
def toList (costs : Costs V) : List (Criterion × V) :=
  Criterion.all.filterMap fun c => (costs.get? c).map (c, ·)

/-- The costs of a list; the last value given for a criterion counts. -/
def ofList (values : List (Criterion × V)) : Costs V :=
  values.foldl (fun costs (c, v) => costs.set c v) empty

def size (costs : Costs V) : Nat := costs.toList.length

def isEmpty (costs : Costs V) : Bool := costs.toList.isEmpty

section Arithmetic

variable [CostValue V]

/-- The value of a criterion.
mirrors `get` -/
def get (costs : Costs V) (c : Criterion) : V := (costs.get? c).getD CostValue.zero

/-- Adds to a criterion. One that is not set starts from zero.
mirrors `add` -/
def add (costs : Costs V) (c : Criterion) (v : V) : Costs V :=
  costs.set c (CostValue.add (costs.get c) v)

/-- mirrors `add_assign` -/
def merge (costs others : Costs V) : Costs V :=
  others.toList.foldl (fun sum (c, v) => sum.add c v) costs

/-- The sum of values, taken in ascending order. -/
def sum (values : List V) : V :=
  (values.mergeSort CostValue.le).foldl CostValue.add CostValue.start

/-- The total of several costs. A criterion is present if any of them sets it.
mirrors `get_total_costs` -/
def total (all : List (Costs V)) : Costs V :=
  ofFn fun c =>
    match all.filterMap (·.get? c) with
    | [] => none
    | values => some (sum values)

end Arithmetic

/-- Whether two doubles, if any, are equal as numbers. -/
def valuesAgree : Option Float → Option Float → Bool
  | none, none => true
  | some x, some y => x == y
  | _, _ => false

/-- Whether the same criteria are set to equal numbers. Costs with not-a-number agree with none. -/
def agrees (a b : Costs Float) : Bool :=
  Criterion.all.all fun c => valuesAgree (a.get? c) (b.get? c)

/-! ## What each operation does to the values -/

@[ext] theorem ext {a b : Costs V} (h : ∀ c, a.get? c = b.get? c) : a = b := by
  obtain ⟨s⟩ := a
  obtain ⟨t⟩ := b
  congr 1
  ext i hi : 1
  have := h (.ofIndex ⟨i, hi⟩)
  have e : (Criterion.ofIndex ⟨i, hi⟩).index = ⟨i, hi⟩ := by
    match i, hi with
    | 0, _ | 1, _ | 2, _ | 3, _ | 4, _ | 5, _ | 6, _ | 7, _ | 8, _ | 9, _ | 10, _ => rfl
  simpa only [get?, e, Fin.getElem_fin] using this

@[simp] theorem get?_ofFn (f : Criterion → Option V) (c : Criterion) : (ofFn f).get? c = f c := by
  simp only [get?, ofFn, Fin.getElem_fin, Vector.getElem_ofFn, Fin.eta, Criterion.ofIndex_index]

@[simp] theorem get?_empty (c : Criterion) : (empty : Costs V).get? c = none := by simp [empty]

theorem get?_set (costs : Costs V) (c d : Criterion) (v : V) :
    (costs.set c v).get? d = if c = d then some v else costs.get? d := by
  simp only [get?, set, Fin.getElem_fin, Vector.getElem_set]
  split
  · rename_i h
    rw [if_pos (Criterion.index_inj (Fin.ext h))]
  · rename_i h
    rw [if_neg fun e => h (by rw [e])]

end Costs

end Multimodal
