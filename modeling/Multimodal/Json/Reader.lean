import Multimodal.Json.Value
import Multimodal.Number.Integer

/-!
# Reading JSON

`Json.read` turns a text into a document: the value at its front and whether anything but white
space follows. Reading never fails as a whole. Where the text leaves the grammar the value ends in
`broken`; a string with half a surrogate pair, a number too large for a double, and an array or
object nested deeper than `maxDepth` become `unreadable`. Where a name has half a surrogate pair,
`unnamed` stands in front of the member.
-/
namespace Multimodal.Json

/-- The deepest nesting of arrays and objects that has a value. -/
def maxDepth : Nat := 127

/-- Drops the white space that JSON allows between tokens. -/
def skipSpace (cs : List Char) : List Char :=
  cs.dropWhile fun c => c == ' ' || c == '\t' || c == '\n' || c == '\r'

/-! ## Strings -/

/-- A character of a string, or an escaped UTF-16 unit that may be half of one. -/
inductive Piece where
  | char (c : Char)
  | unit (u : Nat)
  deriving DecidableEq, Repr

/-- The UTF-16 unit of four hexadecimal digits. -/
def hexUnit? (a b c d : Char) : Option Nat :=
  [a, b, c, d].foldlM (fun u digit => (Number.baseDigit? 16 digit).map (16 * u + ·)) 0

/-- The character that a letter stands for after a backslash. -/
def escaped? : Char → Option Char
  | '"' => some '"'
  | '\\' => some '\\'
  | '/' => some '/'
  | 'b' => some '\x08'
  | 'f' => some '\x0c'
  | 'n' => some '\n'
  | 'r' => some '\r'
  | 't' => some '\t'
  | _ => none

/-- The pieces up to the closing quote and the rest, or nothing if the string is malformed. -/
def readPieces : List Char → Option (List Piece × List Char)
  | [] => none
  | '"' :: rest => some ([], rest)
  | '\\' :: 'u' :: a :: b :: c :: d :: rest =>
    match hexUnit? a b c d, readPieces rest with
    | some u, some (pieces, rest) => some (.unit u :: pieces, rest)
    | _, _ => none
  | '\\' :: letter :: rest =>
    match escaped? letter, readPieces rest with
    | some c, some (pieces, rest) => some (.char c :: pieces, rest)
    | _, _ => none
  | c :: rest =>
    if c.toNat < 0x20 then none
    else (readPieces rest).map fun (pieces, rest) => (.char c :: pieces, rest)

def isHighUnit (u : Nat) : Bool := decide (0xD800 ≤ u ∧ u < 0xDC00)

def isLowUnit (u : Nat) : Bool := decide (0xDC00 ≤ u ∧ u < 0xE000)

def pairChar (high low : Nat) : Char :=
  Char.ofNat (0x10000 + (high - 0xD800) * 0x400 + (low - 0xDC00))

/-- The text of the pieces, or nothing if half a surrogate pair stands alone. -/
def joinPieces : List Piece → Option (List Char)
  | [] => some []
  | .char c :: rest => (joinPieces rest).map (c :: ·)
  | .unit u :: .unit v :: rest =>
    if isHighUnit u then
      if isLowUnit v then (joinPieces rest).map (pairChar u v :: ·) else none
    else if isLowUnit u then none
    else (joinPieces (.unit v :: rest)).map (Char.ofNat u :: ·)
  | .unit u :: rest =>
    if isHighUnit u || isLowUnit u then none else (joinPieces rest).map (Char.ofNat u :: ·)

/-! ## Numbers -/

/-- The value of a number literal. An integer literal is an integer while it fits and is not minus
zero; everything else is a double, unless it is too large for one. -/
def numberValue (l : Number.Literal) (isInteger : Bool) : Json :=
  let n : Int := Number.digitsValue l.whole
  let signed := if l.negative then -n else n
  if isInteger && keepsInteger signed && !(l.negative && n == 0) then .int signed
  else if l.toFloat.isFinite then .real l.toFloat
  else .unreadable

/-- The digits before the point: a lone zero, or digits that start with another. -/
def readWhole (cs : List Char) : Option (List Char × List Char) :=
  match Number.spanDigits cs with
  | ([], _) => none
  | ('0' :: _ :: _, _) => none
  | whole => some whole

/-- The digits after the point, none if there is no point. -/
def readFraction (cs : List Char) : Option (List Char × List Char) :=
  match cs with
  | '.' :: rest =>
    match Number.spanDigits rest with
    | ([], _) => none
    | fraction => some fraction
  | _ => some ([], cs)

/-- Whether an exponent part follows. -/
def hasExponent (cs : List Char) : Bool := cs.head? == some 'e' || cs.head? == some 'E'

/-- A number after its sign, and the rest. -/
def readUnsigned (negative : Bool) (cs : List Char) : Option (Json × List Char) := do
  let (whole, cs) ← readWhole cs
  let (fraction, cs) ← readFraction cs
  let isInteger := fraction.isEmpty && !hasExponent cs
  let (power, rest) ← Number.readExponent cs
  return (numberValue ⟨negative, whole, fraction, power⟩ isInteger, rest)

/-- A number and the rest, or nothing if it is malformed. -/
def readNumber : List Char → Option (Json × List Char)
  | '-' :: rest => readUnsigned true rest
  | cs => readUnsigned false cs

/-! ## Values -/

/-- What was read, and the rest of the text unless it is broken. -/
abbrev Reading (α : Type) := α × Option (List Char)

/-- A finished array or object; at depth zero it has no value. -/
def enclose (depth : Nat) (value : Json) : Option (List Char) → Reading Json
  | none => (if depth = 0 then .broken else value, none)
  | some rest => (if depth = 0 then .unreadable else value, some rest)

/-- A value with no parts. -/
def readAtom : List Char → Reading Json
  | 't' :: 'r' :: 'u' :: 'e' :: rest => (.bool true, some rest)
  | 'f' :: 'a' :: 'l' :: 's' :: 'e' :: rest => (.bool false, some rest)
  | 'n' :: 'u' :: 'l' :: 'l' :: rest => (.null, some rest)
  | '"' :: rest =>
    match readPieces rest with
    | none => (.broken, none)
    | some (pieces, rest) =>
      match joinPieces pieces with
      | some s => (.str (String.ofList s), some rest)
      | none => (.unreadable, some rest)
  | cs =>
    match readNumber cs with
    | none => (.broken, none)
    | some (value, rest) => (value, some rest)

/-- The name of a member and the rest. The name is missing if it has no value. -/
def readName : List Char → Option (Option String × List Char)
  | '"' :: rest =>
    (readPieces rest).map fun (pieces, rest) => ((joinPieces pieces).map String.ofList, rest)
  | _ => none

/-- A member under its name. -/
def member : Option String → Json → List (String × Json)
  | some name, value => [(name, value)]
  | none, value => [("", .unnamed), ("", value)]

mutual

/-- The value at the front of a text, with `depth` levels of nesting left. -/
def readValue : Nat → Nat → List Char → Reading Json
  | 0, _, _ => (.broken, none)
  | fuel + 1, depth, cs =>
    match skipSpace cs with
    | '[' :: rest =>
      match skipSpace rest with
      | ']' :: rest => enclose depth (.arr []) (some rest)
      | rest =>
        let (items, rest) := readItems fuel (depth - 1) rest
        enclose depth (.arr items) rest
    | '{' :: rest =>
      match skipSpace rest with
      | '}' :: rest => enclose depth (.obj []) (some rest)
      | rest =>
        let (members, rest) := readMembers fuel (depth - 1) rest
        enclose depth (.obj members) rest
    | cs => readAtom cs

/-- The items of an array, from the start of one to the closing bracket. -/
def readItems : Nat → Nat → List Char → Reading (List Json)
  | 0, _, _ => ([.broken], none)
  | fuel + 1, depth, cs =>
    match readValue fuel depth cs with
    | (item, none) => ([item], none)
    | (item, some rest) =>
      match skipSpace rest with
      | ']' :: rest => ([item], some rest)
      | ',' :: rest =>
        let (items, rest) := readItems fuel depth rest
        (item :: items, rest)
      | _ => ([item, .broken], none)

/-- The members of an object, from the start of one to the closing brace. -/
def readMembers : Nat → Nat → List Char → Reading (List (String × Json))
  | 0, _, _ => ([("", .broken)], none)
  | fuel + 1, depth, cs =>
    match readName (skipSpace cs) with
    | none => ([("", .broken)], none)
    | some (name, rest) =>
      match skipSpace rest with
      | ':' :: rest =>
        match readValue fuel depth rest with
        | (value, none) => (member name value, none)
        | (value, some rest) =>
          match skipSpace rest with
          | '}' :: rest => (member name value, some rest)
          | ',' :: rest =>
            let (members, rest) := readMembers fuel depth rest
            (member name value ++ members, rest)
          | _ => (member name value ++ [("", .broken)], none)
      | _ => ([("", .broken)], none)

end

/-- A value, and whether the text held nothing else. -/
structure Document where
  value : Json
  isClean : Bool
  deriving Inhabited, Repr

/-- Reads a text. No path through the text makes more than two calls for each character. -/
def read (text : String) : Document :=
  let cs := text.toList
  match readValue (2 * cs.length + 2) maxDepth cs with
  | (value, some rest) => ⟨value, (skipSpace rest).isEmpty⟩
  | (value, none) => ⟨value, false⟩

end Multimodal.Json
