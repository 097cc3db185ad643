import Multimodal.Records

/-!
# Reading cells

A cell is text, and the field decides what it means. Numbers are decimal; an integer may also be
hexadecimal after `0x`. Fields that take several forms first guess what the text is, and then follow
the rules for that kind of value.
-/
namespace Multimodal.Csv

/-- An integer of a format, in decimal or hexadecimal digits. -/
def integerOf (format : Number.IntegerFormat) (text : String) : Decoded Int :=
  let outcome :=
    match text.toList with
    | '0' :: 'x' :: digits => (format.inBase 16).read digits
    | cs => format.read cs
  outcome.mapError fun _ => .shape

def floatOf (text : String) : Decoded Float := (Number.float? text.toList).elim (.error .shape) .ok

/-- A value that an empty cell leaves out. -/
def optionalOf {α : Type} (decode : String → Decoded α) (text : String) : Decoded (Option α) :=
  if text.isEmpty then .ok none else (decode text).map some

/-- Integers of up to one hundred and twenty-eight bits, the widest a guess looks for. -/
def guessFormat : Number.IntegerFormat :=
  ⟨-0x80000000000000000000000000000000, 0xFFFFFFFFFFFFFFFFFFFFFFFFFFFFFFFF, 10⟩

/-- What a text looks like: a truth value, an integer, a double, or else just text. -/
def guess (text : String) : Json :=
  match text with
  | "true" => .bool true
  | "false" => .bool false
  | _ =>
    match guessFormat.read text.toList with
    | .ok n => .int n
    | .error _ =>
      match Number.float? text.toList with
      | some x => .real x
      | none => .str text

/-- mirrors `deserialize_flag` -/
def flagOf (text : String) : Decoded Bool := (guess text).asFlag

/-- mirrors `deserialize_optional_id` -/
def optionalIdOf (text : String) : Decoded (Option Int64) :=
  if text.isEmpty then .ok none else (guess text).asOptionalId

end Multimodal.Csv

namespace Multimodal

def RowFormat.cell : RowFormat String where
  int64 text := (Csv.integerOf Number.int64Format text).map Int64.ofInt
  int32 text := (Csv.integerOf Number.int32Format text).map Int32.ofInt
  optionalInt32 :=
    Csv.optionalOf fun text => (Csv.integerOf Number.int32Format text).map Int32.ofInt
  uint32 text := (Csv.integerOf Number.uint32Format text).map UInt32.ofInt
  float := Csv.floatOf
  text := .ok
  flag := Csv.flagOf
  optionalId := Csv.optionalIdOf

end Multimodal
