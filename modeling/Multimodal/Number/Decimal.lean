import Multimodal.Number.Shortest

/-!
# Reading decimals

A decimal literal is a sign, digits before and after the point and a power of ten. `Literal.toFloat`
rounds it to the nearest double, ties to even; what is too large becomes infinite and what is too
small zero.
-/
namespace Multimodal.Number

def isDigit (c : Char) : Bool := decide ('0' ≤ c ∧ c ≤ '9')

def digitValue (c : Char) : Nat := c.toNat - '0'.toNat

/-- The number written by a list of ASCII digits. -/
def digitsValue (ds : List Char) : Nat := ds.foldl (fun n c => 10 * n + digitValue c) 0

/-- A decimal literal, taken apart. -/
structure Literal where
  negative : Bool
  whole : List Char
  fraction : List Char
  power : Int
  deriving DecidableEq, Repr

/-- The value of the literal as an exact decimal, its sign left out. -/
def Literal.decimal (l : Literal) : Decimal :=
  ⟨digitsValue (l.whole ++ l.fraction), l.power - l.fraction.length⟩

/-- The double nearest to a decimal. Beyond `10^400` and below `10^-400` the outcome is known
without computing the power of ten. -/
def Decimal.toFloat (d : Decimal) : Float :=
  let lead := d.exponent + (digits d.coefficient).length
  if d.coefficient = 0 ∨ lead < -400 then 0.0
  else if 400 < lead then Float.ofScientific 1 false 400
  else if 0 ≤ d.exponent then Float.ofScientific d.coefficient false d.exponent.toNat
  else Float.ofScientific d.coefficient true (-d.exponent).toNat

def Literal.toFloat (l : Literal) : Float :=
  if l.negative then -l.decimal.toFloat else l.decimal.toFloat

/-- Splits off the digits a list starts with. -/
def spanDigits (cs : List Char) : List Char × List Char := cs.span isDigit

/-- An exponent's digits after an optional sign: the power and the rest, or nothing if no digit
follows. -/
def readPower (cs : List Char) : Option (Int × List Char) :=
  let signed (negative : Bool) (cs : List Char) : Option (Int × List Char) :=
    match spanDigits cs with
    | ([], _) => none
    | (ds, rest) => some (if negative then -(digitsValue ds : Int) else digitsValue ds, rest)
  match cs with
  | '+' :: rest => signed false rest
  | '-' :: rest => signed true rest
  | _ => signed false cs

/-- The exponent part that may follow a number: power zero if there is none. -/
def readExponent (cs : List Char) : Option (Int × List Char) :=
  match cs with
  | 'e' :: rest => readPower rest
  | 'E' :: rest => readPower rest
  | _ => some (0, cs)

/-- The unsigned decimals of a table cell: digits with at most one point, at least one digit, and an
optional exponent, the whole text. -/
def readUnsigned (cs : List Char) : Option Literal :=
  let (whole, rest) := spanDigits cs
  let (fraction, rest) :=
    match rest with
    | '.' :: more => spanDigits more
    | _ => ([], rest)
  if whole.isEmpty && fraction.isEmpty then none
  else
    match readExponent rest with
    | some (power, []) => some ⟨false, whole, fraction, power⟩
    | _ => none

/-- An ASCII letter in lower case; any other character unchanged. -/
def lower (c : Char) : Char := if 'A' ≤ c ∧ c ≤ 'Z' then Char.ofNat (c.toNat + 32) else c

/-- An unsigned double in a table cell: a decimal, or a name for infinity or not-a-number in letters
of either case. -/
def unsignedFloat? (cs : List Char) : Option Float :=
  match String.ofList (cs.map lower) with
  | "inf" => some (Float.ofScientific 1 false 400)
  | "infinity" => some (Float.ofScientific 1 false 400)
  | "nan" => some (0.0 / 0.0)
  | _ => (readUnsigned cs).map Literal.toFloat

/-- A double in a table cell, with an optional sign. Overflow gives infinity. -/
def float? (cs : List Char) : Option Float :=
  match cs with
  | '+' :: rest => unsignedFloat? rest
  | '-' :: rest => (unsignedFloat? rest).map (- ·)
  | _ => unsignedFloat? cs

end Multimodal.Number
