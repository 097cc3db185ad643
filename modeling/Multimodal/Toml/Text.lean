import Multimodal.Number.Integer

/-!
# The text of TOML

White space, comments and line ends, the four kinds of strings, and keys. Every reader takes the
text from where it stands and answers with what it read and the rest, or with nothing if the text is
not TOML.
-/
namespace Multimodal.Toml

/-- Whether a character parts tokens on a line. -/
def isSpace (c : Char) : Bool := c == ' ' || c == '\t'

/-- Whether a character may stand in comments and strings of one line: all but control characters, a
tab excepted. -/
def isPrintable (c : Char) : Bool := c == '\t' || (decide (0x20 ≤ c.toNat) && c.toNat != 0x7F)

def skipSpace (cs : List Char) : List Char := cs.dropWhile isSpace

/-- A line end at the front: a line feed, alone or after a carriage return. -/
def newline? : List Char → Option (List Char)
  | '\n' :: rest => some rest
  | '\r' :: '\n' :: rest => some rest
  | _ => none

/-- Drops spaces and a comment. -/
def skipComment (cs : List Char) : List Char :=
  match skipSpace cs with
  | '#' :: rest => rest.dropWhile isPrintable
  | rest => rest

/-- What follows the line, which must hold nothing more than a comment. -/
def endLine (cs : List Char) : Option (List Char) :=
  match skipComment cs with
  | [] => some []
  | rest => newline? rest

/-- Drops spaces, comments and line ends, as many as there are. -/
def skipLines : Nat → List Char → List Char
  | 0, cs => cs
  | fuel + 1, cs =>
    let rest := skipComment cs
    match newline? rest with
    | some rest => skipLines fuel rest
    | none => rest

/-- Drops everything that may stand between the items of an array or an inline table. -/
def skipGap (cs : List Char) : List Char := skipLines cs.length cs

/-! ## Strings -/

/-- The character of a code point in hexadecimal digits. -/
def hexChar? (digits : List Char) : Option Char := do
  let code ← digits.foldlM (fun n d => (Number.baseDigit? 16 d).map (16 * n + ·)) 0
  if code < 0xD800 ∨ 0xDFFF < code ∧ code < 0x110000 then return Char.ofNat code else none

/-- The character of an escape sequence after its backslash, and the rest. -/
def readEscape : List Char → Option (Char × List Char)
  | 'b' :: rest => some ('\x08', rest)
  | 't' :: rest => some ('\t', rest)
  | 'n' :: rest => some ('\n', rest)
  | 'f' :: rest => some ('\x0c', rest)
  | 'r' :: rest => some ('\r', rest)
  | 'e' :: rest => some ('\x1b', rest)
  | '"' :: rest => some ('"', rest)
  | '\\' :: rest => some ('\\', rest)
  | 'x' :: a :: b :: rest => (hexChar? [a, b]).map (·, rest)
  | 'u' :: a :: b :: c :: d :: rest => (hexChar? [a, b, c, d]).map (·, rest)
  | 'U' :: a :: b :: c :: d :: e :: f :: g :: h :: rest =>
    (hexChar? [a, b, c, d, e, f, g, h]).map (·, rest)
  | _ => none

/-- A string up to its closing quote. -/
def readBasic : Nat → List Char → Option (List Char × List Char)
  | 0, _ => none
  | _ + 1, [] => none
  | _ + 1, '"' :: rest => some ([], rest)
  | fuel + 1, '\\' :: rest => do
    let (c, rest) ← readEscape rest
    let (text, rest) ← readBasic fuel rest
    return (c :: text, rest)
  | fuel + 1, c :: rest =>
    if isPrintable c then (readBasic fuel rest).map fun (text, rest) => (c :: text, rest) else none

/-- A string without escapes up to its closing quote. -/
def readLiteral : List Char → Option (List Char × List Char)
  | [] => none
  | '\'' :: rest => some ([], rest)
  | c :: rest =>
    if isPrintable c then (readLiteral rest).map fun (text, rest) => (c :: text, rest) else none

/-- Drops spaces, tabs and line ends. -/
def skipBlank : List Char → List Char
  | ' ' :: rest => skipBlank rest
  | '\t' :: rest => skipBlank rest
  | '\n' :: rest => skipBlank rest
  | '\r' :: '\n' :: rest => skipBlank rest
  | rest => rest

/-- What follows a backslash at the end of a line: the line end and all white space after it are
dropped. -/
def continueLine (cs : List Char) : Option (List Char) := (newline? (skipSpace cs)).map skipBlank

/-- The end of a string of several lines: three quotes. Up to two more before them belong to the
string. -/
def closing? (mark : Char) : List Char → Option (List Char × List Char)
  | a :: b :: c :: d :: e :: rest =>
    if [a, b, c, d, e].all (· == mark) then some ([mark, mark], rest)
    else if [a, b, c, d].all (· == mark) then some ([mark], e :: rest)
    else if [a, b, c].all (· == mark) then some ([], d :: e :: rest)
    else none
  | [a, b, c, d] =>
    if [a, b, c, d].all (· == mark) then some ([mark], [])
    else if [a, b, c].all (· == mark) then some ([], [d])
    else none
  | [a, b, c] => if [a, b, c].all (· == mark) then some ([], []) else none
  | _ => none

/-- A string of several lines up to its closing quotes. Backslashes escape if `escapes` holds. -/
def readLines (mark : Char) (escapes : Bool) : Nat → List Char → Option (List Char × List Char)
  | 0, _ => none
  | fuel + 1, cs =>
    match closing? mark cs with
    | some closed => some closed
    | none =>
      match cs with
      | [] => none
      | '\r' :: '\n' :: rest =>
        (readLines mark escapes fuel rest).map fun (text, rest) => ('\r' :: '\n' :: text, rest)
      | c :: rest =>
        if escapes && c == '\\' then
          match continueLine rest with
          | some rest => readLines mark escapes fuel rest
          | none => do
            let (c, rest) ← readEscape rest
            let (text, rest) ← readLines mark escapes fuel rest
            return (c :: text, rest)
        else if isPrintable c || c == '\n' then
          (readLines mark escapes fuel rest).map fun (text, rest) => (c :: text, rest)
        else none

/-- Drops a line end right after the opening quotes. -/
def dropFirstNewline (cs : List Char) : List Char := (newline? cs).getD cs

def readString (cs : List Char) : Option (String × List Char) :=
  let text :=
    match cs with
    | '"' :: '"' :: '"' :: rest => readLines '"' true (cs.length + 1) (dropFirstNewline rest)
    | '\'' :: '\'' :: '\'' :: rest => readLines '\'' false (cs.length + 1) (dropFirstNewline rest)
    | '"' :: rest => readBasic (cs.length + 1) rest
    | '\'' :: rest => readLiteral rest
    | _ => none
  text.map fun (text, rest) => (String.ofList text, rest)

/-! ## Keys -/

/-- Whether a character may stand in a key without quotes. -/
def isKeyChar (c : Char) : Bool := c.isAlphanum || c == '-' || c == '_'

/-- One part of a key: bare, or a string of one line. -/
def readKeyPart (cs : List Char) : Option (String × List Char) :=
  match cs with
  | '"' :: rest => (readBasic (cs.length + 1) rest).map fun (t, rest) => (String.ofList t, rest)
  | '\'' :: rest => (readLiteral rest).map fun (t, rest) => (String.ofList t, rest)
  | _ =>
    match cs.span isKeyChar with
    | ([], _) => none
    | (part, rest) => some (String.ofList part, rest)

/-- The parts of a key, from the start of one. -/
def readKeyParts : Nat → List Char → Option (List String × List Char)
  | 0, _ => none
  | fuel + 1, cs => do
    let (part, rest) ← readKeyPart (skipSpace cs)
    match skipSpace rest with
    | '.' :: rest =>
      let (parts, rest) ← readKeyParts fuel rest
      return (part :: parts, rest)
    | rest => return ([part], rest)

/-- The most parts of a key. -/
def maxKeyParts : Nat := 80

/-- A key: parts with dots between them, and the rest after white space. -/
def readKey (cs : List Char) : Option (List String × List Char) := do
  let (parts, rest) ← readKeyParts (cs.length + 1) cs
  if parts.length ≤ maxKeyParts then return (parts, rest) else none

end Multimodal.Toml
