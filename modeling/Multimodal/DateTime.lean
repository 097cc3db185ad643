import Multimodal.Number.Integer
import Multimodal.Text.Blank

/-!
# Dates with times of day

Moments of the proleptic Gregorian calendar without a time zone, to the nanosecond. Second 60 is a
leap second and kept as such.

`DateTime.read?` and `DateTime.text` are the two directions of the text form
`YYYY-MM-DDTHH:MM:SS[.fraction]`. Reading is generous: numbers may be short, white space may stand
between the parts, and digits of the fraction beyond the ninth are dropped.
-/
namespace Multimodal

def isLeapYear (year : Int) : Bool := year % 4 == 0 && (year % 100 != 0 || year % 400 == 0)

/-- The number of days of a month, zero for what is no month. -/
def daysInMonth (year : Int) (month : Nat) : Nat :=
  match month with
  | 1 | 3 | 5 | 7 | 8 | 10 | 12 => 31
  | 4 | 6 | 9 | 11 => 30
  | 2 => if isLeapYear year then 29 else 28
  | _ => 0

/-- Whether numbers denote a moment. Years have a range of their own. -/
def isMoment (year : Int) (month day hour minute second nanosecond : Nat) : Bool :=
  decide (-262143 ≤ year ∧ year ≤ 262142 ∧ 1 ≤ day ∧ day ≤ daysInMonth year month ∧ hour < 24 ∧
    minute < 60 ∧ second ≤ 60 ∧ nanosecond < 1000000000)

/-- A date with a time of day. -/
structure DateTime where
  year : Int
  month : Nat
  day : Nat
  hour : Nat
  minute : Nat
  second : Nat
  nanosecond : Nat
  valid : isMoment year month day hour minute second nanosecond = true
  deriving DecidableEq, Repr

namespace DateTime

def ofFields? (year : Int) (month day hour minute second nanosecond : Nat) : Option DateTime :=
  if valid : isMoment year month day hour minute second nanosecond then
    some ⟨year, month, day, hour, minute, second, nanosecond, valid⟩
  else none

def epoch : DateTime := ⟨1970, 1, 1, 0, 0, 0, 0, rfl⟩

instance : Inhabited DateTime := ⟨epoch⟩

/-! ## Reading -/

/-- One to `most` digits after white space, and the rest. -/
def readNumber (most : Nat) (cs : List Char) : Option (Nat × List Char) :=
  let cs := Text.trimStart cs
  let ds := (cs.take most).takeWhile Number.isDigit
  if ds.isEmpty then none else some (Number.digitsValue ds, cs.drop ds.length)

/-- All digits of a number that follows a sign, and the rest. -/
def readSigned (cs : List Char) : Option (Nat × List Char) :=
  match Number.spanDigits cs with
  | ([], _) => none
  | (ds, rest) => some (Number.digitsValue ds, rest)

/-- A year: four digits at most, or any number of them after a sign. -/
def readYear (cs : List Char) : Option (Int × List Char) :=
  match Text.trimStart cs with
  | '-' :: rest => (readSigned rest).map fun (n, rest) => (-n, rest)
  | '+' :: rest => (readSigned rest).map fun (n, rest) => (n, rest)
  | cs => (readNumber 4 cs).map fun (n, rest) => (n, rest)

/-- A mark after white space. -/
def readMark (mark : Char) (cs : List Char) : Option (List Char) :=
  match Text.trimStart cs with
  | c :: rest => if c = mark then some rest else none
  | [] => none

/-- The nanoseconds of a fraction, zero if there is none. -/
def readFraction (cs : List Char) : Option (Nat × List Char) :=
  match cs with
  | '.' :: rest =>
    match Number.spanDigits rest with
    | ([], _) => none
    | (ds, rest) =>
      let used := ds.take 9
      some (Number.digitsValue used * Nat.pow 10 (9 - used.length), rest)
  | _ => some (0, cs)

def read? (text : String) : Option DateTime := do
  let (year, cs) ← readYear text.toList
  let cs ← readMark '-' cs
  let (month, cs) ← readNumber 2 cs
  let cs ← readMark '-' cs
  let (day, cs) ← readNumber 2 cs
  let cs ← readMark 'T' cs
  let (hour, cs) ← readNumber 2 cs
  let cs ← readMark ':' cs
  let (minute, cs) ← readNumber 2 cs
  let cs ← readMark ':' cs
  let (second, cs) ← readNumber 2 cs
  let (nanosecond, cs) ← readFraction cs
  if (Text.trimStart cs).isEmpty then ofFields? year month day hour minute second nanosecond
  else none

/-! ## Writing -/

/-- A number with zeros in front up to a width. -/
def padded (width n : Nat) : List Char :=
  let ds := Number.digits n
  List.replicate (width - ds.length) '0' ++ ds

/-- A year: four digits, with a sign outside 0 to 9999. -/
def yearText (year : Int) : List Char :=
  if year < 0 then '-' :: padded 4 year.natAbs
  else if year ≤ 9999 then padded 4 year.natAbs
  else '+' :: padded 4 year.natAbs

/-- The fraction of a second: none, or the fewest of 3, 6 and 9 digits that are exact. -/
def fractionText (nanosecond : Nat) : List Char :=
  if nanosecond = 0 then []
  else if nanosecond % 1000000 = 0 then '.' :: padded 3 (nanosecond / 1000000)
  else if nanosecond % 1000 = 0 then '.' :: padded 6 (nanosecond / 1000)
  else '.' :: padded 9 nanosecond

def text (t : DateTime) : String :=
  String.ofList (yearText t.year ++ '-' :: padded 2 t.month ++ '-' :: padded 2 t.day ++ 'T' ::
    padded 2 t.hour ++ ':' :: padded 2 t.minute ++ ':' :: padded 2 t.second ++
    fractionText t.nanosecond)

end DateTime

end Multimodal
