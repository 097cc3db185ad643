import Multimodal.Json.Value

/-!
# Tables under construction

A document fills one table line by line. Each table in it remembers how it came to be, because that
decides who may add to it: a table with a header of its own cannot get a second one, a table made by
a dotted key grows by dotted keys and by headers of tables in it, and a value that was written out
is closed.
-/
namespace Multimodal.Toml

/-- How a table came to be. -/
inductive Making where
  /-- On the way to the header of a table in it. -/
  | implied
  /-- On the way along a dotted key. -/
  | dotted
  /-- By a header of its own, or as the document. -/
  | defined
  deriving DecidableEq, Repr

/-- What a key of an unfinished table stands for. -/
inductive Node where
  /-- A closed value. -/
  | value (v : Json)
  /-- A table. -/
  | table (making : Making) (members : List (String × Node))
  /-- A list of tables, the latest first; only that one grows. -/
  | tables (items : List (List (String × Node)))
  deriving Inhabited

/-- The keys of an unfinished table, in the order of their appearance. -/
abbrev Members := List (String × Node)

def Members.put (key : String) (node : Node) : Members → Members
  | [] => [(key, node)]
  | (other, held) :: rest =>
    if other == key then (key, node) :: rest else (other, held) :: Members.put key node rest

/-- Changes the table at the end of a path by `f`, making tables on the way where nothing is. A
dotted path (`making` is `dotted`) does not enter a table that has a header. -/
def descend (making : Making) (f : Making → Members → Option (Making × Members)) :
    List String → Making → Members → Option (Making × Members)
  | [], own, members => f own members
  | key :: path, own, members =>
    match members.lookup key with
    | none => do
      let (made, inner) ← descend making f path making []
      return (own, Members.put key (.table made inner) members)
    | some (.table held inner) =>
      if making = .dotted ∧ held = .defined then none
      else do
        let (held, inner) ← descend making f path held inner
        return (own, Members.put key (.table held inner) members)
    | some (.tables (last :: earlier)) => do
      let (_, last) ← descend making f path .defined last
      return (own, Members.put key (.tables (last :: earlier)) members)
    | some _ => none

/-- Puts a value under a key that is new. -/
def addValue (key : String) (v : Json) (making : Making) (members : Members) :
    Option (Making × Members) :=
  match members.lookup key with
  | none => some (making, Members.put key (.value v) members)
  | some _ => none

/-- Puts a value under a dotted key. A table it is put into through a path must be one that dotted
keys made. -/
def addKeyValue (path : List String) (key : String) (v : Json) (making : Making)
    (members : Members) : Option (Making × Members) :=
  descend .dotted
    (fun making members =>
      if !path.isEmpty && making != .dotted then none else addValue key v making members)
    path making members

/-- Opens the table of a header. It must be new, or known only from headers of tables in it. -/
def openTable (key : String) (making : Making) (members : Members) : Option (Making × Members) :=
  match members.lookup key with
  | none => some (making, Members.put key (.table .defined []) members)
  | some (.table .implied inner) =>
    some (making, Members.put key (.table .defined inner) members)
  | some _ => none

/-- Opens a further table of a list of tables. -/
def openItem (key : String) (making : Making) (members : Members) : Option (Making × Members) :=
  match members.lookup key with
  | none => some (making, Members.put key (.tables [[]]) members)
  | some (.tables items) => some (making, Members.put key (.tables ([] :: items)) members)
  | some _ => none

mutual

/-- The finished value of a node. -/
def Node.finish : Node → Json
  | .value v => v
  | .table _ members => .obj (finishMembers members)
  | .tables items => .arr (finishItems items).reverse

def finishMembers : List (String × Node) → List (String × Json)
  | [] => []
  | (key, node) :: rest => (key, node.finish) :: finishMembers rest

def finishItems : List (List (String × Node)) → List Json
  | [] => []
  | members :: rest => .obj (finishMembers members) :: finishItems rest

end

end Multimodal.Toml
