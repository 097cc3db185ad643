import Multimodal.IdIndex

/-!
# Directed multigraphs

Vertices and arcs carry labels and are named by handles in the order of their addition. Arcs may
repeat and may start and end at one vertex.
-/
namespace Multimodal

/-- An arc with its ends. -/
structure Arc (α : Type) where
  source : Handle
  target : Handle
  label : α
  deriving DecidableEq, Repr

/-- A directed multigraph with labelled vertices and arcs. -/
structure Digraph (ν α : Type) where
  vertices : Array ν := #[]
  arcs : Array (Arc α) := #[]
  deriving DecidableEq, Repr

namespace Digraph

variable {ν α : Type}

def empty : Digraph ν α := {}

/-- The number of vertices. -/
def order (g : Digraph ν α) : Nat := g.vertices.size

/-- The number of arcs. -/
def size (g : Digraph ν α) : Nat := g.arcs.size

/-- Adds a vertex; its handle is the number of vertices before. -/
def addVertex (g : Digraph ν α) (label : ν) : Digraph ν α × Handle :=
  ({ g with vertices := g.vertices.push label }, g.order)

/-- Adds an arc between existing vertices; its handle is the number of arcs before. -/
def addArc (g : Digraph ν α) (source target : Handle) (label : α) :
    Except Failure (Digraph ν α × Handle) :=
  if source < g.order ∧ target < g.order then
    .ok ({ g with arcs := g.arcs.push ⟨source, target, label⟩ }, g.size)
  else .error .invalidHandle

def vertex? (g : Digraph ν α) (handle : Handle) : Option ν := g.vertices[handle]?

/-- An arc with its ends and label. -/
def arc? (g : Digraph ν α) (handle : Handle) : Option (Arc α) := g.arcs[handle]?

def ends? (g : Digraph ν α) (handle : Handle) : Option (Handle × Handle) :=
  (g.arc? handle).map fun arc => (arc.source, arc.target)

def mapVertex (g : Digraph ν α) (handle : Handle) (f : ν → ν) : Digraph ν α :=
  { g with vertices := g.vertices.modify handle f }

/-- The arcs with their handles, in the order of their addition. -/
def arcList (g : Digraph ν α) : List (Handle × Arc α) := (List.range g.size).zip g.arcs.toList

/-- The arcs from one vertex to another. -/
def connecting (g : Digraph ν α) (source target : Handle) : List (Handle × Arc α) :=
  g.arcList.filter fun (_, arc) => arc.source == source && arc.target == target

def outgoing (g : Digraph ν α) (vertex : Handle) : List (Handle × Arc α) :=
  g.arcList.filter fun (_, arc) => arc.source == vertex

def incoming (g : Digraph ν α) (vertex : Handle) : List (Handle × Arc α) :=
  g.arcList.filter fun (_, arc) => arc.target == vertex

/-- The ends of the arcs that leave a vertex, one for each arc. -/
def successors (g : Digraph ν α) (vertex : Handle) : List Handle :=
  (g.outgoing vertex).map fun (_, arc) => arc.target

/-- The starts of the arcs that enter a vertex, one for each arc. -/
def predecessors (g : Digraph ν α) (vertex : Handle) : List Handle :=
  (g.incoming vertex).map fun (_, arc) => arc.source

@[simp] theorem order_addVertex (g : Digraph ν α) (label : ν) :
    (g.addVertex label).1.order = g.order + 1 := by
  simp [addVertex, order]

@[simp] theorem size_addVertex (g : Digraph ν α) (label : ν) :
    (g.addVertex label).1.size = g.size := rfl

end Digraph

end Multimodal
