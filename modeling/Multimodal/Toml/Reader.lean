import Multimodal.Toml.Scalar
import Multimodal.Toml.Table

/-!
# Reading TOML

A document is read line by line: a header says which table the following lines fill, and a line
with a key and a value adds to that table. The finished document is plain data, the same as that of
a JSON text.
-/
namespace Multimodal.Toml

/-- The deepest nesting of arrays and inline tables. -/
def maxDepth : Nat := 80

mutual

/-- The value at the front of a text, with `depth` levels of nesting left. -/
def readValue : Nat → Nat → List Char → Option (Json × List Char)
  | 0, _, _ => none
  | fuel + 1, depth, cs =>
    match cs, depth with
    | '[' :: _, 0 => none
    | '{' :: _, 0 => none
    | '[' :: rest, depth + 1 => do
      let (items, rest) ← readItems fuel depth rest
      return (.arr items, rest)
    | '{' :: rest, depth + 1 => do
      let (members, rest) ← readMembers fuel depth [] rest
      return (.obj (finishMembers members), rest)
    | '"' :: _, _ => (readString cs).map fun (text, rest) => (.str text, rest)
    | '\'' :: _, _ => (readString cs).map fun (text, rest) => (.str text, rest)
    | _, _ => readScalar cs

/-- The items of an array up to its closing bracket. A comma may follow the last. -/
def readItems : Nat → Nat → List Char → Option (List Json × List Char)
  | 0, _, _ => none
  | fuel + 1, depth, cs =>
    match skipGap cs with
    | ']' :: rest => some ([], rest)
    | cs => do
      let (item, rest) ← readValue fuel depth cs
      match skipGap rest with
      | ']' :: rest => return ([item], rest)
      | ',' :: rest =>
        let (items, rest) ← readItems fuel depth rest
        return (item :: items, rest)
      | _ => none

/-- The members of an inline table up to its closing brace, added to those before. A comma may
follow the last. -/
def readMembers : Nat → Nat → Members → List Char → Option (Members × List Char)
  | 0, _, _, _ => none
  | fuel + 1, depth, members, cs =>
    match skipGap cs with
    | '\x7d' :: rest => some (members, rest)
    | cs => do
      let (key, rest) ← readKey cs
      match skipGap rest with
      | '=' :: rest =>
        let (v, rest) ← readValue fuel depth (skipGap rest)
        let (_, members) ← addKeyValue key.dropLast (key.getLastD "") v .defined members
        match skipGap rest with
        | '\x7d' :: rest => return (members, rest)
        | ',' :: rest => readMembers fuel depth members rest
        | _ => none
      | _ => none

end

/-- A document in progress: the table at the top, and the path of the header under which lines now
stand. -/
structure Draft where
  members : Members := []
  header : List String := []

namespace Draft

/-- Adds a key and its value under the current header. -/
def add (d : Draft) (key : List String) (v : Json) : Option Draft := do
  let (_, members) ←
    descend .implied (addKeyValue key.dropLast (key.getLastD "") v) d.header .defined d.members
  return { d with members }

/-- Opens the table, or the further item of a list of tables, that a header names. -/
def openHeader (d : Draft) (isItem : Bool) (header : List String) : Option Draft := do
  let name := header.getLastD ""
  let (_, members) ←
    descend .implied (if isItem then openItem name else openTable name) header.dropLast .defined
      d.members
  return { members, header }

end Draft

/-- Reads a line at its first character that is no white space, and answers with the rest of it. -/
def readLine (fuel : Nat) (d : Draft) (cs : List Char) : Option (Draft × List Char) :=
  match cs with
  | [] => some (d, cs)
  | '\n' :: _ => some (d, cs)
  | '\r' :: _ => some (d, cs)
  | '#' :: _ => some (d, cs)
  | '[' :: '[' :: rest => do
    let (header, rest) ← readKey rest
    match rest with
    | ']' :: ']' :: rest => return (← d.openHeader true header, rest)
    | _ => none
  | '[' :: rest => do
    let (header, rest) ← readKey rest
    match rest with
    | ']' :: rest => return (← d.openHeader false header, rest)
    | _ => none
  | _ => do
    let (key, rest) ← readKey cs
    match rest with
    | '=' :: rest =>
      let (v, rest) ← readValue fuel maxDepth (skipSpace rest)
      return (← d.add key v, rest)
    | _ => none

/-- Reads the lines of a document. -/
def readDocument : Nat → Draft → List Char → Option Draft
  | 0, _, _ => none
  | _ + 1, d, [] => some d
  | fuel + 1, d, cs => do
    let (d, rest) ← readLine (2 * cs.length + 2) d (skipSpace cs)
    readDocument fuel d (← endLine rest)

/-- Drops the mark that may stand in front of a text. -/
def dropMark : List Char → List Char
  | '\ufeff' :: rest => rest
  | cs => cs

/-- The table of a TOML text, as plain data. -/
def read (text : String) : Option Json :=
  let cs := dropMark text.toList
  (readDocument (cs.length + 1) {} cs).map fun d => .obj (finishMembers d.members)

end Multimodal.Toml
