import ApiBindings.Decode.Node
import ApiBindings.Yaml.Node
import ApiBindings.Yaml.Scalar

/-!
YAML as nodes. Where a text is wanted any scalar will do, with its spelling; a node read whole has
its scalars typed.
-/
namespace ApiBindings.Decode
open Yaml

/-- A node in its document, and how many more collections may stand inside each other below it. A
document without content has no node. -/
structure YamlSpot where
  document : Yaml.Document
  depth : Nat
  node : Option Yaml.Node

def yamlDepth : Nat := 128

def YamlSpot.root (d : Yaml.Document) : YamlSpot := ⟨d, yamlDepth, d.root⟩

def YamlSpot.target (s : YamlSpot) : Option Yaml.Node :=
  match s.node with
  | some (.alias slot) => s.document.anchored? slot
  | node => node

def valueOrMismatch (text : String) (style : Style) (tag : Option String) :
    Except Mismatch ScalarValue :=
  (scalarValue text style tag).mapError fun expected =>
    .invalidValue s!"string {Text.quoted text}" expected

def wrongYaml {α : Type} (expected : String) : Option Yaml.Node → Except Fault α
  | some (.scalar text style tag) =>
    match valueOrMismatch text style tag with
    | .ok value => .error (.here (.invalidType value.describe expected))
    | .error reason => .error (.here reason)
  | some (.sequence ..) => .error (.here (.invalidType "sequence" expected))
  | some (.mapping ..) => .error (.here (.invalidType "map" expected))
  | _ => .error (.here (.invalidType "unit value" expected))

/-- Is there nothing at all, so that a collection is taken to be empty? -/
def isBlankNode : Option Yaml.Node → Bool
  | none => true
  | some (.scalar text .plain _) => text.isEmpty
  | _ => false

def scalarText? : Option Yaml.Node → Option String
  | some (.scalar text _ _) => some text
  | _ => none

def YamlSpot.inner (s : YamlSpot) (node : Yaml.Node) : YamlSpot :=
  ⟨s.document, s.depth - 1, some node⟩

def YamlSpot.checkDepth (s : YamlSpot) : Except Fault Unit :=
  if s.depth = 0 then .error (.here .tooDeep) else .ok ()

def YamlSpot.keyed (s : YamlSpot) (expected : String) :
    List (Yaml.Node × Yaml.Node) → Run (String × YamlSpot)
  | [] => { parts := [] }
  | (key, value) :: rest =>
    let target := (s.inner key).target
    match scalarText? target with
    | some text =>
      let run := s.keyed expected rest
      { run with parts := (text, s.inner value) :: run.parts }
    | none =>
      let fault : Except Fault Unit := within .unnamed (wrongYaml expected target)
      { parts := [], stop := match fault with
        | .error e => some e
        | .ok _ => none }

def treeOfScalar : ScalarValue → Except Mismatch Tree
  | .null => .ok .null
  | .bool b => .ok (.bool b)
  | .whole n => .ok (.number (.whole n))
  | .float x => .ok (.number (.float x))
  | .infinite _ | .notANumber => .ok .nonFinite
  | .text s => .ok (.text s)
  | .wide n => .error (.invalidType (ScalarValue.wide n).describe "any value")

def keyOfTree : Tree → Key × Step
  | .text s => (.text s, .key s)
  | .number (.whole (.ofNat n)) => (.position n, .key (toString n))
  | .number (.whole n) => (.other, .key (toString n))
  | .bool b => (.other, .key (toString b))
  | _ => (.other, .unnamed)

def wholeItems (read : Yaml.Node → Nat → Except Fault (Tree × Nat)) :
    Nat → List Yaml.Node → Nat → Except Fault (List Tree × Nat)
  | _, [], jumps => .ok ([], jumps)
  | n, node :: rest, jumps => do
    let (t, jumps) ← within (.index n) (read node jumps)
    let (ts, jumps) ← wholeItems read (n + 1) rest jumps
    return (t :: ts, jumps)

def wholeEntries (read : Yaml.Node → Nat → Except Fault (Tree × Nat)) :
    List (Yaml.Node × Yaml.Node) → Nat → Except Fault (List (Key × Tree) × Nat)
  | [], jumps => .ok ([], jumps)
  | (k, v) :: rest, jumps => do
    let (kt, jumps) ← within .unnamed (read k jumps)
    let (key, step) := keyOfTree kt
    let (t, jumps) ← within step (read v jumps)
    let (ts, jumps) ← wholeEntries read rest jumps
    return ((key, t) :: ts, jumps)

def wholeTarget (read : Option (Yaml.Node → Nat → Except Fault (Tree × Nat))) (jumps : Nat) :
    Yaml.Node → Except Fault (Tree × Nat)
  | .scalar text style tag =>
    if (localTag? tag).isSome then .error (.here .taggedValue)
    else
      match valueOrMismatch text style tag >>= treeOfScalar with
      | .ok t => .ok (t, jumps)
      | .error reason => .error (.here reason)
  | .sequence items tag =>
    if (localTag? tag).isSome then .error (.here .taggedValue)
    else
      match read with
      | none => .error (.here .tooDeep)
      | some read => do
        let (ts, jumps) ← wholeItems read 0 items jumps
        return (.list ts, jumps)
  | .mapping entries tag =>
    if (localTag? tag).isSome then .error (.here .taggedValue)
    else
      match read with
      | none => .error (.here .tooDeep)
      | some read => do
        let (ts, jumps) ← wholeEntries read entries jumps
        return (.map ts, jumps)
  | .alias _ => .ok (.null, jumps)

/-- Reads a node whole. Following aliases is limited to a hundred for each mark and scalar of the
document, so that a short text cannot stand for an endless value. -/
def wholeNode (d : Yaml.Document) : Nat → Yaml.Node → Nat → Except Fault (Tree × Nat)
  | depth, node, jumps =>
    let read := match depth with
      | 0 => none
      | depth + 1 => some (wholeNode d depth)
    match node with
    | .alias slot =>
      if d.events * 100 < jumps + 1 then .error (.here .tooManyAliases)
      else wholeTarget read (jumps + 1) ((d.anchored? slot).getD (.scalar "" .plain none))
    | node => wholeTarget read jumps node

def unitYaml (s : YamlSpot) : Except Fault Unit :=
  match s.target with
  | some (.scalar text .plain _) =>
    if text.isEmpty || isNullText text then .ok () else wrongYaml "unit" s.target
  | target => wrongYaml "unit" target

instance : Node YamlSpot where
  text expected s :=
    match scalarText? s.target with
    | some text => .ok text
    | none => wrongYaml expected s.target
  bool s :=
    match s.target with
    | some (.scalar text style tag) =>
      let literal := style = .plain || (style = .literal && tag.bind coreTag? = some .bool)
      match literal, boolOf? text with
      | true, some b => .ok b
      | _, _ => wrongYaml "a boolean" s.target
    | target => wrongYaml "a boolean" target
  isNull s :=
    match s.target with
    | none => .ok true
    | some (.scalar text .plain tag) =>
      match tag with
      | none => .ok (text.isEmpty || isNullText text)
      | some t =>
        if coreTag? t = some .null then
          if isNullText text then .ok true
          else .error (.here (.invalidValue s!"string {Text.quoted text}" "null"))
        else .ok false
    | _ => .ok false
  items s :=
    match s.target with
    | some (.sequence items _) => do
      s.checkDepth
      return { parts := items.map s.inner }
    | target => if isBlankNode target then .ok { parts := [] } else wrongYaml "a sequence" target
  entries s :=
    match s.target with
    | some (.mapping entries _) => do
      s.checkDepth
      return s.keyed "a string" entries
    | target => if isBlankNode target then .ok { parts := [] } else wrongYaml "a map" target
  record name s :=
    match s.target with
    | some (.mapping entries _) => do
      s.checkDepth
      let run := s.keyed "field identifier" entries
      return .named { parts := run.parts.map fun e => (.text e.1, e.2), stop := run.stop }
    | target =>
      if isBlankNode target then .ok (.named { parts := [] })
      else wrongYaml s!"struct {name}" target
  choice s :=
    let tagged (tag : String) : Choice :=
      { key := .text tag, rest := within (.key tag) (unitYaml s) }
    match s.target with
    | some (.scalar text _ tag) =>
      match localTag? tag with
      | some name => .ok (tagged name)
      | none => .ok { key := .text text, rest := .ok () }
    | some (.sequence _ tag) =>
      match localTag? tag with
      | some name => .ok (tagged name)
      | none => .error (.here (.invalidType "sequence" "a YAML tag starting with '!'"))
    | some (.mapping _ tag) =>
      match localTag? tag with
      | some name => .ok (tagged name)
      | none => .error (.here (.invalidType "map" "a YAML tag starting with '!'"))
    | _ => .error (.here (.invalidType "unit value" "a YAML tag starting with '!'"))
  skip _ := .ok ()
  tree s :=
    match s.node with
    | none => .ok .null
    | some node => (wholeNode s.document s.depth node 0).map Prod.fst

end ApiBindings.Decode
