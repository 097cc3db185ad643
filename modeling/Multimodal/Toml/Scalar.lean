import Multimodal.Json.Value
import Multimodal.Toml.Text

/-!
# Numbers, truth values and times of TOML

A value without quotes and brackets is a run of letters, digits and a few marks. What it is follows
from the whole run. A number that is too large to be held has no value. A time is kept as an object
with its text under a name that no table of a configuration uses.
-/
namespace Multimodal.Toml

/-- Whether a character may stand in a value without quotes. -/
def isScalarChar (c : Char) : Bool :=
  c.isAlphanum || c == '_' || c == '+' || c == '-' || c == '.' || c == ':'

/-- Digits of a base with single underscores between them, the whole text: the digits alone. -/
def digitGroup? (isDigit : Char → Bool) : List Char → Option (List Char)
  | [] => none
  | [c] => if isDigit c then some [c] else none
  | c :: '_' :: rest =>
    if isDigit c then (digitGroup? isDigit rest).map (c :: ·) else none
  | c :: rest => if isDigit c then (digitGroup? isDigit rest).map (c :: ·) else none

/-- Digits of a whole number: no zero stands in front of another digit. -/
def wholeDigits? (cs : List Char) : Option (List Char) :=
  match digitGroup? Number.isDigit cs with
  | some ('0' :: _ :: _) => none
  | digits => digits

/-- Splits off a sign: whether it is a minus, and the rest. -/
def splitSign : List Char → Bool × List Char
  | '+' :: rest => (false, rest)
  | '-' :: rest => (true, rest)
  | cs => (false, cs)

/-! ## Integers -/

/-- The number of digits in a base. -/
def baseValue (base : Nat) (digits : List Char) : Nat :=
  digits.foldl (fun n d => base * n + (Number.baseDigit? base d).getD 0) 0

/-- Digits of a base, with underscores. -/
def inBase? (base : Nat) (cs : List Char) : Option Int :=
  (digitGroup? (fun c => (Number.baseDigit? base c).isSome) cs).map fun ds =>
    (baseValue base ds : Int)

/-- An integer: decimal with an optional sign, or hexadecimal, octal or binary. -/
def integer? (cs : List Char) : Option Int :=
  match cs with
  | '0' :: 'x' :: digits => inBase? 16 digits
  | '0' :: 'o' :: digits => inBase? 8 digits
  | '0' :: 'b' :: digits => inBase? 2 digits
  | _ =>
    let (negative, digits) := splitSign cs
    (wholeDigits? digits).map fun ds =>
      let n : Int := Number.digitsValue ds
      if negative then -n else n

/-- The value of an integer of up to one hundred and twenty-eight bits. A larger one has none. -/
def integerValue (n : Int) : Json :=
  if -0x80000000000000000000000000000000 ≤ n ∧ n ≤ 0xFFFFFFFFFFFFFFFFFFFFFFFFFFFFFFFF then .int n
  else .unreadable

/-! ## Doubles -/

/-- The exponent after its letter. -/
def power? (cs : List Char) : Option Int :=
  let (negative, digits) := splitSign cs
  (digitGroup? Number.isDigit digits).map fun ds =>
    let n : Int := Number.digitsValue ds
    if negative then -n else n

/-- A double after its sign: a whole number with a fraction, an exponent or both. One that is too
large becomes infinite. -/
def unsignedFloat? (cs : List Char) : Option Float := do
  let isMark (c : Char) := c == 'e' || c == 'E'
  let (mantissa, exponent) := cs.span fun c => !isMark c
  let (whole, fraction) := mantissa.span (· != '.')
  let whole ← wholeDigits? whole
  let fraction ←
    match fraction with
    | [] => if exponent.isEmpty then none else some []
    | _ :: digits => digitGroup? Number.isDigit digits
  let power ←
    match exponent with
    | [] => some 0
    | _ :: digits => power? digits
  return Number.Literal.toFloat ⟨false, whole, fraction, power⟩

/-- A double, among them the infinities and not-a-number. A number that is too large has no
value. -/
def float? (cs : List Char) : Option Json :=
  let (negative, rest) := splitSign cs
  let signed (x : Float) : Json := .real (if negative then -x else x)
  match rest with
  | ['i', 'n', 'f'] => some (signed (1.0 / 0.0))
  | ['n', 'a', 'n'] => some (signed (0.0 / 0.0))
  | _ => (unsignedFloat? rest).map fun x => if x.isFinite then signed x else .unreadable

/-! ## Times -/

/-- Exactly two digits at the front, up to a greatest value. -/
def twoDigits? (greatest : Nat) : List Char → Option (Nat × List Char)
  | a :: b :: rest =>
    if Number.isDigit a && Number.isDigit b then
      let n := Number.digitsValue [a, b]
      if n ≤ greatest then some (n, rest) else none
    else none
  | _ => none

def monthLength (year month : Nat) : Nat :=
  if month = 2 then
    if year % 4 = 0 ∧ (year % 100 ≠ 0 ∨ year % 400 = 0) then 29 else 28
  else if month = 4 ∨ month = 6 ∨ month = 9 ∨ month = 11 then 30
  else 31

def skipDate? : List Char → Option (List Char)
  | a :: b :: c :: d :: '-' :: rest => do
    let year := [a, b, c, d]
    let (month, rest) ← twoDigits? 12 rest
    match rest with
    | '-' :: rest =>
      let (day, rest) ← twoDigits? 31 rest
      if year.all Number.isDigit ∧ 1 ≤ month ∧ 1 ≤ day ∧
          day ≤ monthLength (Number.digitsValue year) month then return rest
      else none
    | _ => none
  | _ => none

def skipFraction? : List Char → Option (List Char)
  | '.' :: rest =>
    match Number.spanDigits rest with
    | ([], _) => none
    | (_, rest) => some rest
  | rest => some rest

/-- What follows a time of day at the front. Seconds may be left out. -/
def skipTime? (cs : List Char) : Option (List Char) := do
  let (_, rest) ← twoDigits? 23 cs
  match rest with
  | ':' :: rest =>
    let (_, rest) ← twoDigits? 59 rest
    match rest with
    | ':' :: rest =>
      let (_, rest) ← twoDigits? 60 rest
      skipFraction? rest
    | _ => return rest
  | _ => none

/-- What follows the distance to universal time, if one is given. -/
def skipOffset? : List Char → Option (List Char)
  | 'Z' :: rest => some rest
  | 'z' :: rest => some rest
  | sign :: rest => do
    if sign == '+' || sign == '-' then
      let (_, rest) ← twoDigits? 23 rest
      match rest with
      | ':' :: rest => (twoDigits? 59 rest).map (·.2)
      | _ => none
    else return sign :: rest
  | [] => some []

/-- Whether a text is a date, a time of day, or both with a `T` or a space between them and possibly
an offset. -/
def isTime (cs : List Char) : Bool :=
  match skipDate? cs with
  | some [] => true
  | some (mark :: rest) =>
    (mark == 'T' || mark == 't' || mark == ' ') && ((skipTime? rest).bind skipOffset?) == some []
  | none => skipTime? cs == some []

def timeValue (cs : List Char) : Json := .obj [("date-time", .str (String.ofList cs))]

/-! ## Scalars -/

/-- The value of a run. -/
def scalar? (cs : List Char) : Option Json :=
  match cs with
  | ['t', 'r', 'u', 'e'] => some (.bool true)
  | ['f', 'a', 'l', 's', 'e'] => some (.bool false)
  | _ =>
    match integer? cs with
    | some n => some (integerValue n)
    | none =>
      match float? cs with
      | some v => some v
      | none => if isTime cs then some (timeValue cs) else none

/-- A value without quotes and brackets. After a date a space and a digit lead on to a time. -/
def readScalar (cs : List Char) : Option (Json × List Char) :=
  let (run, rest) := cs.span isScalarChar
  match skipDate? run, rest with
  | some [], ' ' :: c :: more =>
    if Number.isDigit c then
      let (time, rest) := (c :: more).span isScalarChar
      (scalar? (run ++ ' ' :: time)).map (·, rest)
    else (scalar? run).map (·, rest)
  | _, _ => (scalar? run).map (·, rest)

end Multimodal.Toml
