import Multimodal.Json.Value
import Multimodal.Number.Integer

/-!
# Writing JSON

Values are written without white space. A double that is not finite is written as `null`, and so are
the two forms that are no values.
-/
namespace Multimodal.Json

/-- A character inside a string. Quotes, backslashes and controls are escaped. -/
def charText (c : Char) : List Char :=
  match c with
  | '"' => ['\\', '"']
  | '\\' => ['\\', '\\']
  | '\x08' => ['\\', 'b']
  | '\x0c' => ['\\', 'f']
  | '\n' => ['\\', 'n']
  | '\r' => ['\\', 'r']
  | '\t' => ['\\', 't']
  | _ =>
    if c.toNat < 0x20 then
      ['\\', 'u', '0', '0', Nat.digitChar (c.toNat / 16), Nat.digitChar (c.toNat % 16)]
    else [c]

def stringText (s : String) : List Char := '"' :: s.toList.flatMap charText ++ ['"']

mutual

/-- A value as text. -/
def chars : Json → List Char
  | .null => ['n', 'u', 'l', 'l']
  | .bool true => ['t', 'r', 'u', 'e']
  | .bool false => ['f', 'a', 'l', 's', 'e']
  | .int n => Number.integerText n
  | .real x => if x.isFinite then Number.jsonText x else ['n', 'u', 'l', 'l']
  | .str s => stringText s
  | .arr [] => ['[', ']']
  | .arr (item :: rest) => '[' :: chars item ++ itemsChars rest
  | .obj [] => ['{', '}']
  | .obj ((name, value) :: rest) =>
    '{' :: stringText name ++ ':' :: chars value ++ membersChars rest
  | .unreadable => ['n', 'u', 'l', 'l']
  | .unnamed => ['n', 'u', 'l', 'l']
  | .broken => ['n', 'u', 'l', 'l']

/-- The items after the first, and the closing bracket. -/
def itemsChars : List Json → List Char
  | [] => [']']
  | item :: rest => ',' :: chars item ++ itemsChars rest

/-- The members after the first, and the closing brace. -/
def membersChars : List (String × Json) → List Char
  | [] => ['}']
  | (name, value) :: rest => ',' :: stringText name ++ ':' :: chars value ++ membersChars rest

end

/-- A value as one line of text. -/
def print (value : Json) : String := String.ofList value.chars

end Multimodal.Json
