import ApiBindings.Yaml.Scanner

namespace ApiBindings.Yaml

inductive Node where
  | scalar (text : String) (style : Style) (tag : Option String)
  | sequence (items : List Node) (tag : Option String)
  | mapping (entries : List (Node × Node)) (tag : Option String)
  /-- The slot of the anchor, and not its node, since a node may hold an alias of itself. -/
  | alias (slot : Nat)
  deriving Repr, Inhabited

/-- An anchored node. Among nodes in one slot the one that starts last counts. -/
structure Anchored where
  slot : Nat
  order : Nat
  node : Node

structure Document where
  root : Option Node
  anchors : List Anchored

mutual

/-- How many marks and scalars a node is made of. -/
def Node.events : Node → Nat
  | .scalar .. => 1
  | .alias _ => 1
  | .sequence items _ => itemsEvents items + 2
  | .mapping entries _ => entriesEvents entries + 2

def itemsEvents : List Node → Nat
  | [] => 0
  | n :: rest => n.events + itemsEvents rest

def entriesEvents : List (Node × Node) → Nat
  | [] => 0
  | (k, v) :: rest => k.events + v.events + entriesEvents rest

end

def Document.events (d : Document) : Nat := (d.root.map Node.events).getD 1

def laterOf (best : Option Anchored) (a : Anchored) : Option Anchored :=
  match best with
  | some b => if b.order < a.order then some a else best
  | none => some a

def Document.anchored? (d : Document) (slot : Nat) : Option Node :=
  ((d.anchors.filter fun a => a.slot = slot).foldl laterOf none).map Anchored.node

/-- The state of parsing: tokens left, the slot of each anchor name, and the anchored nodes. -/
structure Parser where
  tokens : List Token
  handles : List (String × String)
  names : List (String × Nat) := []
  started : Nat := 0
  anchors : List Anchored := []

namespace Parser

def peek? (p : Parser) : Option Token := p.tokens.head?

def skip (p : Parser) : Parser := { p with tokens := p.tokens.drop 1 }

def isNext (p : Parser) (ts : List Token) : Bool :=
  match p.peek? with
  | some t => ts.contains t
  | none => false

def emptyScalar : Node := .scalar "" .plain none

def tag? (p : Parser) (handle suffix : String) : Option String :=
  if handle.isEmpty then some suffix else (p.handles.lookup handle).map (· ++ suffix)

/-- Gives an anchor its slot: the number of names known before it. -/
def nameAnchor (p : Parser) (name : String) : Nat × Parser :=
  let slot := p.names.length
  let names := (name, slot) :: p.names.filter fun n => n.1 ≠ name
  (slot, { p with names, started := p.started + 1 })

/-- An anchor and a tag in front of a node, in either order. -/
def properties? (p : Parser) : Option (Option String × Option String × Parser) :=
  match p.tokens with
  | .anchor a :: .tag h t :: rest =>
    (p.tag? h t).map fun tag => (some a, some tag, { p with tokens := rest })
  | .tag h t :: .anchor a :: rest =>
    (p.tag? h t).map fun tag => (some a, some tag, { p with tokens := rest })
  | .anchor a :: rest => some (some a, none, { p with tokens := rest })
  | .tag h t :: rest => (p.tag? h t).map fun tag => (none, some tag, { p with tokens := rest })
  | _ => some (none, none, p)

mutual

/-- A node. Block collections are open to it only in a block, and a sequence without indentation
only as a part of a mapping. -/
def node : Nat → Bool → Bool → Parser → Option (Node × Parser)
  | 0, _, _, _ => none
  | fuel + 1, block, indentless, p =>
    match p.tokens with
    | .alias name :: _ => (p.names.lookup name).map fun slot => (.alias slot, p.skip)
    | _ => do
      let (anchor, tag, p) ← p.properties?
      match anchor with
      | none => content fuel block indentless tag false p
      | some name =>
        let (slot, q) := p.nameAnchor name
        let (n, r) ← content fuel block indentless tag true q
        return (n, { r with anchors := ⟨slot, p.started, n⟩ :: r.anchors })

/-- A node behind its anchor and tag; an anchor or a tag alone marks an empty scalar. -/
def content : Nat → Bool → Bool → Option String → Bool → Parser → Option (Node × Parser)
  | 0, _, _, _, _, _ => none
  | fuel + 1, block, indentless, tag, anchored, p =>
    match p.peek? with
    | some (.scalar text style) => some (.scalar text style tag, p.skip)
    | some .flowSequenceStart => do
      let (items, p) ← flowItems fuel true p.skip
      return (.sequence items tag, p)
    | some .flowMappingStart => do
      let (entries, p) ← flowEntries fuel true p.skip
      return (.mapping entries tag, p)
    | t =>
      if indentless && t = some .blockEntry then do
        let (items, p) ← indentlessItems fuel p
        return (.sequence items tag, p)
      else if block && t = some .blockSequenceStart then do
        let (items, p) ← blockItems fuel p.skip
        return (.sequence items tag, p)
      else if block && t = some .blockMappingStart then do
        let (entries, p) ← blockEntries fuel p.skip
        return (.mapping entries tag, p)
      else if anchored || tag.isSome then some (.scalar "" .plain tag, p)
      else none

def nodeUnless : Nat → List Token → Bool → Bool → Parser → Option (Node × Parser)
  | 0, _, _, _, _ => none
  | fuel + 1, ends, block, indentless, p =>
    if p.isNext ends then some (emptyScalar, p) else node fuel block indentless p

def blockItems : Nat → Parser → Option (List Node × Parser)
  | 0, _ => none
  | fuel + 1, p =>
    match p.peek? with
    | some .blockEntry => do
      let (n, p) ← nodeUnless fuel [.blockEntry, .blockEnd] true false p.skip
      let (items, p) ← blockItems fuel p
      return (n :: items, p)
    | some .blockEnd => some ([], p.skip)
    | _ => none

def indentlessItems : Nat → Parser → Option (List Node × Parser)
  | 0, _ => none
  | fuel + 1, p =>
    if p.peek? = some .blockEntry then do
      let (n, p) ← nodeUnless fuel [.blockEntry, .key, .value, .blockEnd] true false p.skip
      let (items, p) ← indentlessItems fuel p
      return (n :: items, p)
    else some ([], p)

def blockEntries : Nat → Parser → Option (List (Node × Node) × Parser)
  | 0, _ => none
  | fuel + 1, p =>
    match p.peek? with
    | some .key => do
      let (k, p) ← nodeUnless fuel [.key, .value, .blockEnd] true true p.skip
      let (v, p) ←
        if p.peek? = some .value then nodeUnless fuel [.key, .value, .blockEnd] true true p.skip
        else some (emptyScalar, p)
      let (entries, p) ← blockEntries fuel p
      return ((k, v) :: entries, p)
    | some .blockEnd => some ([], p.skip)
    | _ => none

def flowItems : Nat → Bool → Parser → Option (List Node × Parser)
  | 0, _, _ => none
  | fuel + 1, first, p =>
    if p.peek? = some .flowSequenceEnd then some ([], p.skip)
    else if !first && p.peek? ≠ some .flowEntry then none
    else
      let p := if first then p else p.skip
      match p.peek? with
      | some .flowSequenceEnd => some ([], p.skip)
      | some .key => do
        let (pair, p) ← flowPair fuel p.skip
        let (items, p) ← flowItems fuel false p
        return (.mapping [pair] none :: items, p)
      | _ => do
        let (n, p) ← node fuel false false p
        let (items, p) ← flowItems fuel false p
        return (n :: items, p)

/-- A single pair inside a flow sequence, behind its key mark. A token that stands for an empty key
is passed over. -/
def flowPair : Nat → Parser → Option ((Node × Node) × Parser)
  | 0, _ => none
  | fuel + 1, p => do
    let (k, p) ←
      if p.isNext [.value, .flowEntry, .flowSequenceEnd] then some (emptyScalar, p.skip)
      else node fuel false false p
    let (v, p) ←
      if p.peek? = some .value then
        nodeUnless fuel [.flowEntry, .flowSequenceEnd] false false p.skip
      else some (emptyScalar, p)
    return ((k, v), p)

def flowEntries : Nat → Bool → Parser → Option (List (Node × Node) × Parser)
  | 0, _, _ => none
  | fuel + 1, first, p =>
    if p.peek? = some .flowMappingEnd then some ([], p.skip)
    else if !first && p.peek? ≠ some .flowEntry then none
    else
      let p := if first then p else p.skip
      match p.peek? with
      | some .flowMappingEnd => some ([], p.skip)
      | some .key => do
        let (k, p) ← nodeUnless fuel [.value, .flowEntry, .flowMappingEnd] false false p.skip
        let (v, p) ←
          if p.peek? = some .value then
            nodeUnless fuel [.flowEntry, .flowMappingEnd] false false p.skip
          else some (emptyScalar, p)
        let (entries, p) ← flowEntries fuel false p
        return ((k, v) :: entries, p)
      | _ => do
        let (k, p) ← node fuel false false p
        let (entries, p) ← flowEntries fuel false p
        return ((k, emptyScalar) :: entries, p)

end

end Parser

def isDirective : Token → Bool
  | .versionDirective .. => true
  | .tagDirective .. => true
  | _ => false

def standardHandles : List (String × String) := [("!", "!"), ("!!", "tag:yaml.org,2002:")]

/-- The handles that directives declare. A second version, a version other than 1.1 and 1.2, and a
handle declared twice are refused. -/
def handlesOf : Bool → List (String × String) → List Token → Option (List (String × String))
  | _, handles, [] => some (handles ++ standardHandles)
  | versioned, handles, .versionDirective major minor :: rest =>
    if versioned || major ≠ 1 || (minor ≠ 1 && minor ≠ 2) then none
    else handlesOf true handles rest
  | versioned, handles, .tagDirective handle expansion :: rest =>
    if (handles.lookup handle).isSome then none
    else handlesOf versioned (handles ++ [(handle, expansion)]) rest
  | versioned, handles, _ :: rest => handlesOf versioned handles rest

def endsStream (tokens : List Token) : Bool := tokens.all (· = .documentEnd)

def atEmptyContent : List Token → Bool
  | [] => true
  | t :: _ => isDirective t || t = .documentStart || t = .documentEnd

/-- Builds the one document that tokens make up. Without marks and directives in front of it a
document must not be empty, unless there are no tokens at all. -/
def Document.ofTokens? (tokens : List Token) : Option Document := do
  let directives := tokens.takeWhile isDirective
  let rest := tokens.dropWhile isDirective
  let handles ← handlesOf false [] directives
  let fuel := 4 * tokens.length + 4
  match rest with
  | [] => if directives.isEmpty then some ⟨none, []⟩ else none
  | .documentStart :: body =>
    if atEmptyContent body then
      if endsStream body then some ⟨some Parser.emptyScalar, []⟩ else none
    else finish fuel handles body
  | body => if directives.isEmpty then finish fuel handles body else none
where
  finish (fuel : Nat) (handles : List (String × String)) (body : List Token) :
      Option Document := do
    let (root, p) ← Parser.node fuel true false { tokens := body, handles }
    if endsStream p.tokens then some ⟨some root, p.anchors⟩ else none

def Document.parse? (text : String) : Option Document := (tokens? text).bind Document.ofTokens?

end ApiBindings.Yaml
