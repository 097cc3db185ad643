import Multimodal.Number.Decimal

/-!
# Reading integers of a fixed width

An integer text is an optional sign and one or more digits. Digits are taken from the left, and the
first thing that goes wrong is what is reported: a character that is no digit, or the digit with
which the value leaves its range.
-/
namespace Multimodal.Number

/-- Why a text is no integer of the wanted width. -/
inductive IntegerFault where
  | empty
  | invalidDigit
  | tooLarge
  | tooSmall
  deriving DecidableEq, Repr

def IntegerFault.message : IntegerFault → String
  | .empty => "cannot parse integer from empty string"
  | .invalidDigit => "invalid digit found in string"
  | .tooLarge => "number too large to fit in target type"
  | .tooSmall => "number too small to fit in target type"

/-- The integers of a width, and the base in which they are written. -/
structure IntegerFormat where
  least : Int
  greatest : Int
  base : Nat
  deriving DecidableEq, Repr

/-- The value of a digit in a base up to sixteen; letters count in either case. -/
def baseDigit? (base : Nat) (c : Char) : Option Nat :=
  let value :=
    if isDigit c then digitValue c
    else if 'a' ≤ c ∧ c ≤ 'f' then c.toNat - 'a'.toNat + 10
    else if 'A' ≤ c ∧ c ≤ 'F' then c.toNat - 'A'.toNat + 10
    else 16
  if value < base then some value else none

/-- Appends digits to a value on the side of zero given by `negative`. -/
def IntegerFormat.takeDigits (f : IntegerFormat) (negative : Bool) :
    Int → List Char → Except IntegerFault Int
  | value, [] => .ok value
  | value, c :: rest =>
    match baseDigit? f.base c with
    | none => .error .invalidDigit
    | some d =>
      if negative then
        let next := value * f.base - d
        if next < f.least then .error .tooSmall else f.takeDigits negative next rest
      else
        let next := value * f.base + d
        if f.greatest < next then .error .tooLarge else f.takeDigits negative next rest

/-- Reads a whole text. A minus sign is taken only where negative values exist. -/
def IntegerFormat.read (f : IntegerFormat) (cs : List Char) : Except IntegerFault Int :=
  match cs with
  | [] => .error .empty
  | ['+'] => .error .invalidDigit
  | ['-'] => .error .invalidDigit
  | '+' :: rest => f.takeDigits false 0 rest
  | '-' :: rest => if f.least < 0 then f.takeDigits true 0 rest else .error .invalidDigit
  | _ => f.takeDigits false 0 cs

def int64Format : IntegerFormat := ⟨-0x8000000000000000, 0x7FFFFFFFFFFFFFFF, 10⟩

def int32Format : IntegerFormat := ⟨-0x80000000, 0x7FFFFFFF, 10⟩

def uint32Format : IntegerFormat := ⟨0, 0xFFFFFFFF, 10⟩

def uint64Format : IntegerFormat := ⟨0, 0xFFFFFFFFFFFFFFFF, 10⟩

def IntegerFormat.inBase (f : IntegerFormat) (base : Nat) : IntegerFormat := { f with base }

def IntegerFormat.contains (f : IntegerFormat) (n : Int) : Bool :=
  decide (f.least ≤ n ∧ n ≤ f.greatest)

/-- Decimal digits of an integer, with a minus sign if it is negative. -/
def integerText (n : Int) : List Char :=
  if n < 0 then '-' :: digits n.natAbs else digits n.natAbs

end Multimodal.Number
