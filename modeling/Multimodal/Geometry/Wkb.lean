import Multimodal.Geometry.Basic

/-!
# Well-known binary

The ISO binary form of geometries. Every geometry starts with a header: the byte order and a number
for its type and for the ordinates that each position has beside `x` and `y`. Those are read and
dropped. Shapes made of arcs or triangles are known, but none that has a position can be read, and
one without is left out. `decode?` takes the geometry at the front of the octets and ignores what
follows.
-/
namespace Multimodal.Wkb

/-- What a header says about the numbers behind it. -/
structure Layout where
  littleEndian : Bool
  extraOrdinates : Nat
  deriving DecidableEq, Repr

/-- Octets as a number, the most significant first. -/
def bigEndian (octets : List UInt8) : Nat := octets.foldl (fun n o => 256 * n + o.toNat) 0

/-- A number of `width` octets, and the rest. -/
def takeNat (littleEndian : Bool) (width : Nat) (octets : List UInt8) : Option (Nat × List UInt8) :=
  let (taken, rest) := octets.splitAt width
  if taken.length < width then none
  else some (bigEndian (if littleEndian then taken.reverse else taken), rest)

def takeFloat (layout : Layout) (octets : List UInt8) : Option (Float × List UInt8) :=
  (takeNat layout.littleEndian 8 octets).map fun (bits, rest) =>
    (Float.ofBits (UInt64.ofNat bits), rest)

def takeCount (layout : Layout) (octets : List UInt8) : Option (Nat × List UInt8) :=
  takeNat layout.littleEndian 4 octets

/-- A header: the type of geometry and the layout. -/
def takeHeader (octets : List UInt8) : Option (Nat × Layout × List UInt8) :=
  match octets with
  | [] => none
  | order :: rest =>
    let littleEndian := order != 0
    (takeNat littleEndian 4 rest).map fun (code, rest) =>
      let extra :=
        match code / 1000 with
        | 1 => 1
        | 2 => 1
        | 3 => 2
        | _ => 0
      (code % 1000, ⟨littleEndian, extra⟩, rest)

/-- Runs a reader `count` times. -/
def repeated {α : Type} (take : List UInt8 → Option (α × List UInt8)) :
    Nat → List UInt8 → Option (List α × List UInt8)
  | 0, octets => some ([], octets)
  | count + 1, octets => do
    let (first, octets) ← take octets
    let (others, octets) ← repeated take count octets
    return (first :: others, octets)

/-- A position with all its ordinates. -/
def takeOrdinates (layout : Layout) (octets : List UInt8) : Option (List Float × List UInt8) :=
  repeated (takeFloat layout) (2 + layout.extraOrdinates) octets

def positionOf : List Float → Position
  | x :: y :: _ => ⟨x, y⟩
  | _ => ⟨0, 0⟩

def takePosition (layout : Layout) (octets : List UInt8) : Option (Position × List UInt8) :=
  (takeOrdinates layout octets).map fun (ordinates, rest) => (positionOf ordinates, rest)

/-- A point that is there: one all of whose ordinates are not-a-number stands for no point. -/
def takePoint (layout : Layout) (octets : List UInt8) : Option (Position × List UInt8) := do
  let (ordinates, rest) ← takeOrdinates layout octets
  if ordinates.all Float.isNaN then none else return (positionOf ordinates, rest)

/-- As many parts as the count in front of them says. -/
def counted {α : Type} (layout : Layout) (take : List UInt8 → Option (α × List UInt8))
    (octets : List UInt8) : Option (List α × List UInt8) := do
  let (count, octets) ← takeCount layout octets
  repeated take count octets

/-- The positions of a line or a ring. -/
def takeLine (layout : Layout) : List UInt8 → Option (List Position × List UInt8) :=
  counted layout (takePosition layout)

/-- The rings of an area, closed. -/
def takeArea (layout : Layout) (octets : List UInt8) :
    Option (List (List Position) × List UInt8) := do
  let (rings, octets) ← counted layout (takeLine layout) octets
  return (Geometry.area rings, octets)

/-- A part with a header of its own, whose type is taken as read. -/
def headed {α : Type} (take : Layout → List UInt8 → Option (α × List UInt8))
    (octets : List UInt8) : Option (α × List UInt8) := do
  let (_, layout, octets) ← takeHeader octets
  take layout octets

/-! ## Shapes of arcs and triangles

All that can be read of them is that nothing is there: every reader answers with the rest. -/

/-- Drops a count of nothing. -/
def skipNone (layout : Layout) (octets : List UInt8) : Option (List UInt8) := do
  let (count, octets) ← takeCount layout octets
  if count = 0 then return octets else none

/-- Drops as many parts as the count in front of them says, each after its header. -/
def skipParts (skip : Nat → Layout → List UInt8 → Option (List UInt8)) (layout : Layout)
    (octets : List UInt8) : Option (List UInt8) :=
  let part (octets : List UInt8) : Option (Unit × List UInt8) := do
    let (type, layout, octets) ← takeHeader octets
    return ((), ← skip type layout octets)
  (counted layout part octets).map (·.2)

/-- Drops an arc of a chain. -/
def skipArc (type : Nat) (layout : Layout) (octets : List UInt8) : Option (List UInt8) :=
  if type = 8 then skipNone layout octets else none

def skipCurve (type : Nat) (layout : Layout) (octets : List UInt8) : Option (List UInt8) :=
  match type with
  | 8 => skipNone layout octets
  | 9 => skipParts skipArc layout octets
  | _ => none

def skipCurvedArea (type : Nat) (layout : Layout) (octets : List UInt8) : Option (List UInt8) :=
  if type = 10 then skipParts skipCurve layout octets else none

/-- Drops a triangle, whatever type its header says. -/
def skipTriangle (_ : Nat) : Layout → List UInt8 → Option (List UInt8) := skipNone

/-- Drops a shape of arcs or triangles after its header: a curve, an area within curves, several of
either, a surface of faces or of triangles, or a triangle. -/
def skipShape (type : Nat) (layout : Layout) (octets : List UInt8) : Option (List UInt8) :=
  match type with
  | 8 => skipCurve 8 layout octets
  | 9 => skipCurve 9 layout octets
  | 10 => skipCurvedArea 10 layout octets
  | 11 => skipParts skipCurve layout octets
  | 12 => skipParts skipCurvedArea layout octets
  | 15 => skipNone layout octets
  | 16 => skipParts skipTriangle layout octets
  | 17 => skipNone layout octets
  | _ => none

/-! ## Geometries -/

/-- A geometry with its header, nothing in place of a shape that is left out. Collections nest no
deeper than `fuel`. -/
def takeGeometry : Nat → List UInt8 → Option (Option Geometry × List UInt8)
  | 0, _ => none
  | fuel + 1, octets => do
    let (type, layout, octets) ← takeHeader octets
    match type with
    | 1 =>
      let (p, rest) ← takePoint layout octets
      return (some (.point p), rest)
    | 2 =>
      let (ps, rest) ← takeLine layout octets
      return (some (.lineString ps), rest)
    | 3 =>
      let (rings, rest) ← takeArea layout octets
      return (some (.polygon rings), rest)
    | 4 =>
      let (ps, rest) ← counted layout (headed takePosition) octets
      return (some (.multiPoint ps), rest)
    | 5 =>
      let (lines, rest) ← counted layout (headed takeLine) octets
      return (some (.multiLineString lines), rest)
    | 6 =>
      let (areas, rest) ← counted layout (headed takeArea) octets
      return (some (.multiPolygon areas), rest)
    | 7 =>
      let (parts, rest) ← counted layout (takeGeometry fuel) octets
      return (some (.collection (parts.filterMap id)), rest)
    | _ => return (none, ← skipShape type layout octets)

/-- The geometry at the front of the octets. -/
def decode? (octets : List UInt8) : Option Geometry :=
  (takeGeometry (octets.length + 1) octets).bind (·.1)

end Multimodal.Wkb
