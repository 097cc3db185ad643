import Multimodal.Failure

/-!
# Reading the fields of a record

A record is read from named values in any order, or from values in the order of its fields. Each
field knows how to put a value into the record and whether it may be left out. Names that are no
field's are passed over; a name that comes twice is a fault. Values are looked at in the order in
which they stand, so the first fault in a text is the one reported.

The values themselves are of any type: a row of a table and an object share one list of fields.
-/
namespace Multimodal

/-- Where a field may be missing. -/
inductive Omission where
  /-- It must be there. -/
  | never
  /-- It may be missing from named values only. -/
  | whenNamed
  /-- It may always be missing; the record keeps what it started with. -/
  | always
  deriving DecidableEq, Repr

/-- A field of records `ρ`, read from values `ν`. -/
structure RecordField (ν ρ : Type) where
  name : String
  omission : Omission
  read : ν → ρ → Decoded ρ

namespace RecordField

variable {ν ρ σ : Type}

/-- A field that must be there. -/
def required (name : String) (read : ν → Decoded σ) (put : σ → ρ → ρ) : RecordField ν ρ :=
  ⟨name, .never, fun v r => (read v).map (put · r)⟩

/-- A field that may be missing when values are named. -/
def optional (name : String) (read : ν → Decoded σ) (put : σ → ρ → ρ) : RecordField ν ρ :=
  ⟨name, .whenNamed, fun v r => (read v).map (put · r)⟩

/-- A field that may be missing. -/
def defaulted (name : String) (read : ν → Decoded σ) (put : σ → ρ → ρ) : RecordField ν ρ :=
  ⟨name, .always, fun v r => (read v).map (put · r)⟩

def find? (fields : List (RecordField ν ρ)) (name : String) : Option (RecordField ν ρ) :=
  fields.find? (·.name == name)

/-- Reads named values into a record. `seen` holds the names already read, and `ignorable` says
which values may stand under a name that is no field's. -/
def readNamed (fields : List (RecordField ν ρ)) (ignorable : ν → Bool) :
    List (String × ν) → List String → ρ → Decoded ρ
  | [], seen, r =>
    if fields.all fun f => f.omission != .never || seen.contains f.name then .ok r
    else .error .shape
  | (name, v) :: rest, seen, r =>
    match find? fields name with
    | none => if ignorable v then readNamed fields ignorable rest seen r else .error .shape
    | some f =>
      if seen.contains name then .error .shape
      else
        match f.read v r with
        | .ok r => readNamed fields ignorable rest (name :: seen) r
        | .error fault => .error fault

/-- Reads values in the order of the fields into a record. None may be left over. -/
def readInOrder : List (RecordField ν ρ) → List ν → ρ → Decoded ρ
  | [], [], r => .ok r
  | [], _ :: _, _ => .error .shape
  | f :: fields, [], r => if f.omission = .always then readInOrder fields [] r else .error .shape
  | f :: fields, v :: rest, r =>
    match f.read v r with
    | .ok r => readInOrder fields rest r
    | .error fault => .error fault

end RecordField

end Multimodal
