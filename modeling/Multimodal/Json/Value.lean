/-!
# JSON values

A value keeps what its text said: whether a number was written as an integer, the order of members
and repeated names. Three more forms describe texts that are not quite JSON: `unreadable` is a token
of the grammar without a value, harmless as long as nobody asks for it; `unnamed` stands in an
object where the name of the next member is such a token; and `broken` is the place where a text
stops being JSON, which nobody can get past.

`Json.normalize` is the plain value inside: every object is a map in the order of its names.
-/
namespace Multimodal

/-- A JSON value as it was written. -/
inductive Json where
  | null
  | bool (b : Bool)
  | int (n : Int)
  | real (x : Float)
  | str (s : String)
  | arr (items : List Json)
  | obj (members : List (String × Json))
  | unreadable
  | unnamed
  | broken
  deriving Inhabited, Repr

namespace Json

/-- Puts a member into a list sorted by name, in place of an older one of that name. -/
def insertMember (name : String) (value : Json) : List (String × Json) → List (String × Json)
  | [] => [(name, value)]
  | (other, held) :: rest =>
    if name < other then (name, value) :: (other, held) :: rest
    else if name = other then (name, value) :: rest
    else (other, held) :: insertMember name value rest

/-- Members as a map: sorted by name, the last of equal names kept. -/
def toMap (members : List (String × Json)) : List (String × Json) :=
  members.foldl (fun map (name, value) => insertMember name value map) []

/-- A map with further members, each in place of an older one of its name. -/
def extend (map members : List (String × Json)) : List (String × Json) :=
  members.foldl (fun map (name, value) => insertMember name value map) map

mutual

/-- Whether a value can be used: every token in it has a value. -/
def isReadable : Json → Bool
  | .arr items => areReadable items
  | .obj members => membersReadable members
  | .unreadable => false
  | .unnamed => false
  | .broken => false
  | _ => true

def areReadable : List Json → Bool
  | [] => true
  | item :: rest => isReadable item && areReadable rest

def membersReadable : List (String × Json) → Bool
  | [] => true
  | (_, value) :: rest => isReadable value && membersReadable rest

end

mutual

/-- The plain value: every object in it is a map. -/
def normalize : Json → Json
  | .arr items => .arr (normalizeItems items)
  | .obj members => .obj (toMap (normalizeMembers members))
  | value => value

def normalizeItems : List Json → List Json
  | [] => []
  | item :: rest => normalize item :: normalizeItems rest

def normalizeMembers : List (String × Json) → List (String × Json)
  | [] => []
  | (name, value) :: rest => (name, normalize value) :: normalizeMembers rest

end

/-- Integers that keep their exact value: those of sixty-four bits, signed or unsigned. -/
def keepsInteger (n : Int) : Bool :=
  decide (-0x8000000000000000 ≤ n ∧ n ≤ 0xFFFFFFFFFFFFFFFF)

/-- Whether names stand in strictly ascending order. -/
def isAscending : List (String × Json) → Bool
  | (name, _) :: (next, value) :: rest =>
    decide (name < next) && isAscending ((next, value) :: rest)
  | _ => true

mutual

/-- Whether a value is plain data: integers keep their value, doubles are finite, and every object
is a map. -/
def isPlain : Json → Bool
  | .int n => keepsInteger n
  | .real x => x.isFinite
  | .arr items => arePlain items
  | .obj members => isAscending members && membersPlain members
  | .unreadable => false
  | .unnamed => false
  | .broken => false
  | _ => true

def arePlain : List Json → Bool
  | [] => true
  | item :: rest => isPlain item && arePlain rest

def membersPlain : List (String × Json) → Bool
  | [] => true
  | (_, value) :: rest => isPlain value && membersPlain rest

end

/-- A map from names to plain data. -/
structure Map where
  members : List (String × Json)
  plain : isPlain (.obj members) = true
  deriving Repr

instance : Inhabited Map := ⟨⟨[], rfl⟩⟩

mutual

/-- Whether a value can be passed over: its text is JSON to the end. -/
def isWhole : Json → Bool
  | .arr items => areWhole items
  | .obj members => membersWhole members
  | .broken => false
  | _ => true

def areWhole : List Json → Bool
  | [] => true
  | item :: rest => isWhole item && areWhole rest

def membersWhole : List (String × Json) → Bool
  | [] => true
  | (_, value) :: rest => isWhole value && membersWhole rest

end

/-- Whether a member of an object that is being read can be passed over: its name has a value, and
its text is JSON to the end. -/
def isPassable : Json → Bool
  | .unnamed => false
  | value => isWhole value

mutual

/-- Equality of plain values. Numbers are compared as numbers, so not-a-number differs from itself
and the two zeros agree, but an integer is never a real. -/
def agrees : Json → Json → Bool
  | .null, .null => true
  | .bool a, .bool b => a == b
  | .int m, .int n => m == n
  | .real x, .real y => x == y
  | .str s, .str t => s == t
  | .arr items, .arr others => itemsAgree items others
  | .obj members, .obj others => membersAgree members others
  | _, _ => false

def itemsAgree : List Json → List Json → Bool
  | [], [] => true
  | item :: rest, other :: others => agrees item other && itemsAgree rest others
  | _, _ => false

def membersAgree : List (String × Json) → List (String × Json) → Bool
  | [], [] => true
  | (name, value) :: rest, (other, held) :: others =>
    name == other && agrees value held && membersAgree rest others
  | _, _ => false

end

end Json

end Multimodal
