import ApiBindings.Keyed
import ApiBindings.Json.Basic

namespace ApiBindings

/-- A key of a map in a generic tree. Only texts and natural numbers can name something. -/
inductive Key where
  | text (value : String)
  | position (value : Nat)
  | other
  deriving DecidableEq, Repr

/-- A generic tree. Keys may repeat, and stand in the order they were read. -/
inductive Tree where
  | null
  | bool (value : Bool)
  | number (value : Numeral)
  | nonFinite
  | text (value : String)
  | list (items : List Tree)
  | map (entries : List (Key × Tree))
  deriving Repr, Inhabited

namespace Tree

mutual

/-- The literal that a tree stands for, unless a key is not a text. A float that is not finite has
no number in JSON and becomes null. -/
def toJson? : Tree → Option Json
  | .null => some .null
  | .bool b => some (.bool b)
  | .number n => some (.number n)
  | .nonFinite => some .null
  | .text s => some (.string s)
  | .list items => (itemsToJson? items).map .array
  | .map entries => (entriesToJson? entries).map fun es => .object (uniqueEntries es)

def itemsToJson? : List Tree → Option (List Json)
  | [] => some []
  | t :: rest =>
    match toJson? t, itemsToJson? rest with
    | some j, some js => some (j :: js)
    | _, _ => none

def entriesToJson? : List (Key × Tree) → Option (List (String × Json))
  | [] => some []
  | (.text key, t) :: rest =>
    match toJson? t, entriesToJson? rest with
    | some j, some js => some ((key, j) :: js)
    | _, _ => none
  | _ :: _ => none

end

mutual

def ofJson : Json → Tree
  | .null => .null
  | .bool b => .bool b
  | .number n => .number n
  | .string s => .text s
  | .array items => .list (ofItems items)
  | .object members => .map (ofMembers members)

def ofItems : List Json → List Tree
  | [] => []
  | j :: rest => ofJson j :: ofItems rest

def ofMembers : List (String × Json) → List (Key × Tree)
  | [] => []
  | (key, j) :: rest => (.text key, ofJson j) :: ofMembers rest

end

mutual

def height : Tree → Nat
  | .list items => itemsHeight items + 1
  | .map entries => entriesHeight entries + 1
  | _ => 0

def itemsHeight : List Tree → Nat
  | [] => 0
  | t :: rest => max (height t) (itemsHeight rest)

def entriesHeight : List (Key × Tree) → Nat
  | [] => 0
  | (_, t) :: rest => max (height t) (entriesHeight rest)

end

end Tree

end ApiBindings
