import ApiBindings.Decode.Node
import ApiBindings.Text.Quoted

namespace ApiBindings.Decode

def describeTree : Tree → String
  | .null => "null"
  | .bool b => s!"boolean `{b}`"
  | .number (.whole n) => s!"integer `{n}`"
  | .number (.float x) => s!"floating point `{String.ofList x.toChars}`"
  | .nonFinite => "floating point"
  | .text s => s!"string {Text.quoted s}"
  | .list _ => "sequence"
  | .map _ => "map"

def wrongTree {α : Type} (t : Tree) (expected : String) : Except Fault α :=
  .error (.here (.invalidType (describeTree t) expected))

def textEntries : List (Key × Tree) → Run (String × Tree)
  | [] => { parts := [] }
  | (.text key, t) :: rest =>
    let run := textEntries rest
    { run with parts := (key, t) :: run.parts }
  | (_, _) :: _ =>
    { parts := [], stop := some (.mismatch [.unnamed] (.invalidType "key" "a string")) }

/-- Entries up to the first whose key can name no field. -/
def namedEntries : List (Key × Tree) → Run (Key × Tree)
  | [] => { parts := [] }
  | (.other, _) :: _ =>
    { parts := [], stop := some (.mismatch [.unnamed] (.invalidType "key" "field identifier")) }
  | entry :: rest =>
    let run := namedEntries rest
    { run with parts := entry :: run.parts }

def unitTree : Tree → Except Fault Unit
  | .null => .ok ()
  | t => wrongTree t "unit"

instance : Node Tree where
  text expected
    | .text s => .ok s
    | t => wrongTree t expected
  bool
    | .bool b => .ok b
    | t => wrongTree t "a boolean"
  isNull
    | .null => .ok true
    | _ => .ok false
  items
    | .list items => .ok { parts := items }
    | t => wrongTree t "a sequence"
  entries
    | .map entries => .ok (textEntries entries)
    | t => wrongTree t "a map"
  record name
    | .map entries => .ok (.named (namedEntries entries))
    | .list items => .ok (.listed { parts := items } fun wanted =>
        if wanted < items.length then
          some (.here (.invalidLength items.length "fewer elements in array"))
        else none)
    | t => wrongTree t s!"struct {name}"
  choice
    | .text s => .ok { key := .text s, rest := .ok () }
    | .map [(key, t)] => .ok { key, rest := within (keyStep key) (unitTree t) }
    | .map _ => .error (.here (.invalidValue "map" "map with a single key"))
    | t => wrongTree t "string or map"
  skip _ := .ok ()
  tree t := .ok t

end ApiBindings.Decode
