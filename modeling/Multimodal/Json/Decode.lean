import Multimodal.RecordField
import Multimodal.Json.Reader
import Multimodal.Text.Blank

/-!
# Decoding JSON values

Every decoder is strict about the form of its value: an integer is an integer literal in range, a
text is a string, and an enumeration is one of its names. Two kinds of fields are lenient, because
stored records spell them in several ways: flags and ids that may be absent.
-/
namespace Multimodal.Json

/-- An integer of a format. -/
def asInteger (format : Number.IntegerFormat) : Json → Decoded Int
  | .int n => if format.contains n then .ok n else .error .shape
  | _ => .error .shape

def asInt64 (v : Json) : Decoded Int64 := (asInteger Number.int64Format v).map Int64.ofInt

def asInt32 (v : Json) : Decoded Int32 := (asInteger Number.int32Format v).map Int32.ofInt

def asUInt32 (v : Json) : Decoded UInt32 := (asInteger Number.uint32Format v).map UInt32.ofInt

/-- A handle, which has thirty-two bits in data. -/
def asHandle (v : Json) : Decoded Nat := (asInteger Number.uint32Format v).map Int.toNat

def asUInt64 (v : Json) : Decoded UInt64 := (asInteger Number.uint64Format v).map UInt64.ofInt

/-- A double; integers are doubles too. -/
def asFloat : Json → Decoded Float
  | .int n => .ok (Number.Literal.toFloat ⟨decide (n < 0), Number.digits n.natAbs, [], 0⟩)
  | .real x => .ok x
  | _ => .error .shape

def asText : Json → Decoded String
  | .str s => .ok s
  | _ => .error .shape

def asBool : Json → Decoded Bool
  | .bool b => .ok b
  | _ => .error .shape

variable {α : Type}

/-- A value that may be `null`. -/
def asOptional (decode : Json → Decoded α) : Json → Decoded (Option α)
  | .null => .ok none
  | v => (decode v).map some

def asList (decode : Json → Decoded α) : Json → Decoded (List α)
  | .arr items => items.mapM decode
  | _ => .error .shape

/-- Octets, each a number. -/
def asOctets : Json → Decoded (List UInt8) :=
  asList fun v => (asInteger ⟨0, 255, 10⟩ v).map UInt8.ofInt

/-- In what form values arrive. This decides what counts as no payload where a name has none, how
early a payload is looked at, and which values nobody looks at. -/
inductive Medium where
  /-- Straight from a text; a payload is read before what follows it. -/
  | text
  /-- From a part of a text that was read as a whole first. -/
  | buffer
  /-- From a format without `null`. -/
  | table
  deriving DecidableEq, Repr

/-- Whether a value may stand under a name that is no field's. -/
def Medium.isIgnorable : Medium → Json → Bool
  | .table, v => v.isReadable
  | _, v => v.isPassable

/-- The items of a list that are looked at where `count` are asked for: all, but in a table none
beyond the count. -/
def Medium.regarded : Medium → Nat → List Json → List Json
  | .table, count, items => items.take count
  | _, _, items => items

/-- A record of a medium, as an object or as the list of its fields. -/
def asRecordIn (medium : Medium) (fields : List (RecordField Json α)) (start : α) :
    Json → Decoded α
  | .obj members => RecordField.readNamed fields medium.isIgnorable members [] start
  | .arr items => RecordField.readInOrder fields (medium.regarded fields.length items) start
  | _ => .error .shape

/-- A record, as an object or as the list of its fields. -/
def asRecord : List (RecordField Json α) → α → Json → Decoded α := asRecordIn .text

/-- Whether a value is the payload of a name that has none. -/
def Medium.isNothing : Medium → Json → Bool
  | .text, .null => true
  | .buffer, .null => true
  | .buffer, .obj [] => true
  | .table, .arr [] => true
  | .table, .obj [] => true
  | _, _ => false

/-- A plain enumeration value: its name, or an object with the name and nothing. -/
def asName (medium : Medium) (names : List (String × α)) : Json → Decoded α
  | .str name => (names.lookup name).elim (.error .shape) .ok
  | .obj [(name, v)] =>
    match names.lookup name with
    | some a => if medium.isNothing v then .ok a else .error .shape
    | none => .error .shape
  | _ => .error .shape

/-- The members of an object, as a map of plain data. -/
def asMap : Json → Decoded Map
  | .obj members =>
    let map := toMap (normalizeMembers members)
    if h : membersReadable members ∧ isPlain (.obj map) then .ok ⟨map, h.2⟩ else .error .shape
  | _ => .error .shape

/-! ## Lenient values -/

/-- The texts of a flag, white space at the ends aside.
mirrors `parse_flag` -/
def flagText? (text : String) : Option Bool :=
  match Text.trimmed text with
  | "" | "0" | "f" | "F" | "false" | "False" | "FALSE" | "n" | "no" => some false
  | "1" | "t" | "T" | "true" | "True" | "TRUE" | "y" | "yes" => some true
  | _ => none

/-- A flag: a truth value, an integer that is not zero, or one of the texts.
mirrors `deserialize_flag` -/
def asFlag : Json → Decoded Bool
  | .bool b => .ok b
  | .int n => if Number.int64Format.contains n then .ok (n != 0) else .error .shape
  | .str text => (flagText? text).elim (.error (.flag text)) .ok
  | _ => .error .shape

/-- An id written as text; a text of white space is no id. -/
def idOfText (text : String) : Decoded (Option Int64) :=
  let trimmed := Text.trimmed text
  if trimmed.isEmpty then .ok none
  else
    match Number.int64Format.read trimmed.toList with
    | .ok n => .ok (some (Int64.ofInt n))
    | .error cause => .error (.id trimmed cause)

/-- An id that may be absent: `null`, an integer or a text.
mirrors `deserialize_optional_id` -/
def asOptionalId : Json → Decoded (Option Int64)
  | .null => .ok none
  | .int n => if Number.int64Format.contains n then .ok (some (Int64.ofInt n)) else .error .shape
  | .str text => idOfText text
  | _ => .error .shape

/-- What a text says as a whole: its value decoded, and nothing after it. -/
def decodeText (decode : Json → Decoded α) (text : String) : Decoded α := do
  let document := read text
  let value ← decode document.value
  if document.isClean then return value else throw .shape

/-! ## Encoding -/

def ofInt64 (n : Int64) : Json := .int n.toInt

/-- A number that counts or names. -/
def ofNat (n : Nat) : Json := .int n

def ofOption (encode : α → Json) : Option α → Json
  | none => .null
  | some a => encode a

def ofList (encode : α → Json) (items : List α) : Json := .arr (items.map encode)

/-- Octets, each a number. -/
def ofOctets (octets : List UInt8) : Json := ofList (fun o => ofNat o.toNat) octets

end Multimodal.Json
