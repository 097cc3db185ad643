import Multimodal.Number.Order

/-!
# The shortest decimal of a double

A finite double is `m · 2^q`. Every real closer to it than to its neighbours reads back as it; the
ends of that interval do so as well when `m` is even. `shortest` looks on ever finer decimal grids
for a point of the interval, so it finds the fewest digits that read back, and among those the
decimal nearest to the double. All of it is exact arithmetic on natural numbers.

`plainText` writes the digits positionally and is used in messages; `jsonText` turns to an exponent
where positional notation would grow long.
-/
namespace Multimodal.Number

def exponentField (x : Float) : Nat := magnitude x / 0x10000000000000

def fractionField (x : Float) : Nat := magnitude x % 0x10000000000000

/-- `m` in `m · 2^q`. -/
def significand (x : Float) : Nat :=
  if exponentField x = 0 then fractionField x else 0x10000000000000 + fractionField x

/-- `q` in `m · 2^q`. -/
def binaryExponent (x : Float) : Int :=
  if exponentField x = 0 then -1074 else exponentField x - 1075

/-- A nonnegative decimal `coefficient · 10^exponent`. -/
structure Decimal where
  coefficient : Nat
  exponent : Int
  deriving DecidableEq, Repr

/-- The reals that read back as `value / unit`: those between `low / unit` and `high / unit`, the
ends included if `closed`. -/
structure Interval where
  low : Nat
  value : Nat
  high : Nat
  unit : Nat
  closed : Bool
  deriving DecidableEq, Repr

/-- The interval of a positive finite double. The gap below a power of two is half the gap above. -/
def Interval.of (x : Float) : Interval :=
  let m := significand x
  let p := binaryExponent x - 2
  let below := if fractionField x = 0 ∧ 1 < exponentField x then 1 else 2
  let scale := Nat.pow 2 p.toNat
  { low := (4 * m - below) * scale
    value := 4 * m * scale
    high := (4 * m + 2) * scale
    unit := Nat.pow 2 (-p).toNat
    closed := m % 2 = 0 }

/-- The interval measured in steps of `10^k`. -/
def Interval.onGrid (i : Interval) (k : Int) : Interval :=
  let finer := Nat.pow 10 (-k).toNat
  { i with
    low := i.low * finer
    value := i.value * finer
    high := i.high * finer
    unit := i.unit * Nat.pow 10 k.toNat }

/-- Whether the grid point `c` lies in the interval. -/
def Interval.holds (i : Interval) (c : Nat) : Bool :=
  if i.closed then decide (i.low ≤ c * i.unit ∧ c * i.unit ≤ i.high)
  else decide (i.low < c * i.unit ∧ c * i.unit < i.high)

/-- The grid point of the interval that is nearest to the value, the upper one if both are as near.
Only the two neighbours of the value can be it. -/
def Interval.pick (i : Interval) : Option Nat :=
  let lower := i.value / i.unit
  let upper := lower + 1
  if i.holds upper then
    if i.holds lower && decide (i.value - lower * i.unit < upper * i.unit - i.value) then some lower
    else some upper
  else if i.holds lower then some lower
  else none

/-- The least `j` from `start` on, within `fuel` steps, for which `value · 10^j` reaches `unit`. -/
def leastScale (value unit : Nat) : Nat → Nat → Nat
  | 0, start => start
  | fuel + 1, start =>
    if unit ≤ value * Nat.pow 10 start then start else leastScale value unit fuel (start + 1)

/-- The exponent of the leading digit of `value / unit`. -/
def leadingExponent (value unit : Nat) : Int :=
  if unit ≤ value then ((Nat.toDigits 10 (value / unit)).length : Int) - 1
  else -(leastScale value unit 400 1 : Int)

/-- Moves trailing zeros of the coefficient into the exponent. -/
def Decimal.trim : Nat → Decimal → Decimal
  | 0, d => d
  | fuel + 1, d =>
    if d.coefficient ≠ 0 ∧ d.coefficient % 10 = 0 then
      Decimal.trim fuel ⟨d.coefficient / 10, d.exponent + 1⟩
    else d

/-- Tries grids of `digits`, `digits + 1`, … significant digits. -/
def searchGrids (i : Interval) (lead : Int) : Nat → Nat → Decimal
  | 0, _ => ⟨0, 0⟩
  | fuel + 1, digits =>
    let k := lead - digits
    match (i.onGrid k).pick with
    | some c => ⟨c, k⟩
    | none => searchGrids i lead fuel (digits + 1)

/-- The shortest decimal that reads back as the magnitude of a finite double. Seventeen digits
always suffice. -/
def shortest (x : Float) : Decimal :=
  if significand x = 0 then ⟨0, 0⟩
  else
    let i := Interval.of x
    (searchGrids i (leadingExponent i.value i.unit) 18 0).trim 20

def digits (n : Nat) : List Char := Nat.toDigits 10 n

/-- `coefficient · 10^exponent` in positional notation, without a point if it is whole. -/
def Decimal.positional (d : Decimal) : List Char :=
  let ds := digits d.coefficient
  if 0 ≤ d.exponent then
    if d.coefficient = 0 then ds else ds ++ List.replicate d.exponent.toNat '0'
  else
    let places := (-d.exponent).toNat
    let padded := List.replicate (places + 1 - ds.length) '0' ++ ds
    let whole := padded.length - places
    padded.take whole ++ '.' :: padded.drop whole

/-- `coefficient · 10^exponent` with one digit before the point and an exponent. -/
def Decimal.scientific (d : Decimal) : List Char :=
  match digits d.coefficient with
  | [] => ['0']
  | lead :: more =>
    let power := d.exponent + more.length
    let mark := if power < 0 then ['e', '-'] else ['e']
    let point := if more.isEmpty then [] else '.' :: more
    lead :: point ++ mark ++ digits power.natAbs

def signText (x : Float) : List Char := if isNegative x then ['-'] else []

/-- A double as messages show it: shortest digits, always positional, no point in a whole number,
and names for what is not finite. -/
def plainText (x : Float) : String :=
  if x.isNaN then "NaN"
  else if x.isFinite then String.ofList (signText x ++ (shortest x).positional)
  else if isNegative x then "-inf"
  else "inf"

/-- A finite double as a JSON number that is never an integer literal: positional while the leading
digit stands between `10^-5` and `10^15`, with an exponent outside. -/
def jsonText (x : Float) : List Char :=
  let d := shortest x
  let lead : Int := d.exponent + (digits d.coefficient).length - 1
  let body :=
    if lead < -5 ∨ 15 < lead then d.scientific
    else if 0 ≤ d.exponent then d.positional ++ ['.', '0']
    else d.positional
  signText x ++ body

end Multimodal.Number
