import ApiBindings.Yaml.Properties

/-!
The tokens of YAML text. Block structure follows indentation. A key without an indicator of its own
is known only by the colon behind it, so its token is put in front of it afterwards.
-/
namespace ApiBindings.Yaml

/-- A place where a key may have started: the number of tokens before it, and where it stands. -/
structure KeyStart where
  required : Bool
  tokens : Nat
  index : Nat
  line : Nat
  column : Nat

/-- The state of scanning. Tokens are held backwards and counted; `keys` has one possible key start
for every open flow collection and one for the block around them. -/
structure Scanner where
  source : Source
  tokens : List Token := []
  count : Nat := 0
  flow : Nat := 0
  indent : Int := -1
  indents : List Int := []
  keyAllowed : Bool := true
  keys : List (Option KeyStart) := [none]

namespace Scanner

def push (s : Scanner) (t : Token) : Scanner :=
  { s with tokens := t :: s.tokens, count := s.count + 1 }

def insertAt (s : Scanner) (n : Nat) (t : Token) : Scanner :=
  let later := s.count - n
  { s with tokens := s.tokens.take later ++ t :: s.tokens.drop later, count := s.count + 1 }

def advance (s : Scanner) (n : Nat) : Scanner := { s with source := s.source.skip n }

/-- Passes over blanks, comments and line breaks. Outside flow collections a new line may start a
key, and where a key may start tabs do not count as blanks. -/
def toToken : Nat → Scanner → Scanner
  | 0, s => s
  | fuel + 1, s =>
    let s := if s.source.index = 0 && s.source.peek? = some '\uFEFF' then s.advance 1 else s
    let tabs := 0 < s.flow || !s.keyAllowed
    let source := s.source.skipWhile fun c => c = ' ' || (tabs && c = '\t')
    let source :=
      if source.peek? = some '#' then source.skipWhile fun c => !isBreak c else source
    let s := { s with source }
    if (source.peek?.map isBreak) = some true then
      toToken fuel
        { s with source := source.skipBreak, keyAllowed := s.keyAllowed || s.flow = 0 }
    else s

/-- Gives up a possible key start; one that had to be a key is an error. -/
def dropKey? : Option KeyStart → Option (Option KeyStart)
  | some k => if k.required then none else some none
  | none => some none

/-- A key stays on one line and within 1024 characters. -/
def isStale (source : Source) (k : KeyStart) : Bool :=
  k.line < source.line || k.index + 1024 < source.index

def dropStaleKeys? (s : Scanner) : Option Scanner := do
  let keys ← s.keys.mapM fun key =>
    match key with
    | some k => if isStale s.source k then dropKey? (some k) else some (some k)
    | none => some none
  return { s with keys }

def removeKey? (s : Scanner) : Option Scanner :=
  match s.keys with
  | [] => some s
  | key :: rest => (dropKey? key).map fun k => { s with keys := k :: rest }

def saveKey? (s : Scanner) : Option Scanner :=
  if s.keyAllowed then do
    let s ← s.removeKey?
    let start : KeyStart :=
      { required := s.flow = 0 && s.indent = s.source.column, tokens := s.count
        index := s.source.index, line := s.source.line, column := s.source.column }
    return { s with keys := some start :: s.keys.drop 1 }
  else some s

/-- Ends the blocks that are indented deeper than a column. -/
def unroll (column : Int) : Nat → Scanner → Scanner
  | 0, s => s
  | fuel + 1, s =>
    if s.flow = 0 && column < s.indent then
      let (outer, indents) := match s.indents with
        | [] => (-1, [])
        | i :: rest => (i, rest)
      unroll column fuel { s.push .blockEnd with indent := outer, indents }
    else s

def unrollTo (column : Int) (s : Scanner) : Scanner := unroll column (s.indents.length + 1) s

/-- Starts a block at a column deeper than the current one, in front of all but the first `n`
tokens. -/
def roll (s : Scanner) (column : Nat) (n : Nat) (t : Token) : Scanner :=
  if s.flow = 0 && s.indent < column then
    { s.insertAt n t with indents := s.indent :: s.indents, indent := column }
  else s

def rollHere (s : Scanner) (t : Token) : Scanner := s.roll s.source.column s.count t

def closeBlocks? (s : Scanner) : Option Scanner :=
  (s.unrollTo (-1)).removeKey?.map fun s => { s with keyAllowed := false }

def openFlow? (s : Scanner) (t : Token) : Option Scanner :=
  s.saveKey?.map fun s =>
    { (s.advance 1).push t with flow := s.flow + 1, keys := none :: s.keys, keyAllowed := true }

def closeFlow? (s : Scanner) (t : Token) : Option Scanner :=
  s.removeKey?.map fun s =>
    let s := if s.flow = 0 then s else { s with flow := s.flow - 1, keys := s.keys.drop 1 }
    { (s.advance 1).push t with keyAllowed := false }

def flowEntry? (s : Scanner) : Option Scanner :=
  s.removeKey?.map fun s => { (s.advance 1).push .flowEntry with keyAllowed := true }

/-- An entry of a block sequence. Inside a flow collection the token is left for the parser to
refuse. -/
def blockEntry? (s : Scanner) : Option Scanner :=
  if s.flow = 0 && !s.keyAllowed then none
  else
    (s.rollHere .blockSequenceStart).removeKey?.map fun s =>
      { (s.advance 1).push .blockEntry with keyAllowed := true }

def explicitKey? (s : Scanner) : Option Scanner :=
  if s.flow = 0 && !s.keyAllowed then none
  else
    (s.rollHere .blockMappingStart).removeKey?.map fun s =>
      { (s.advance 1).push .key with keyAllowed := s.flow = 0 }

/-- The colon between key and value. It makes what stands before it a key, if that may be one. -/
def valueMark? (s : Scanner) : Option Scanner :=
  match s.keys.head? with
  | some (some k) =>
    let s := (s.insertAt k.tokens .key).roll k.column k.tokens .blockMappingStart
    some { (s.advance 1).push .value with keys := none :: s.keys.drop 1, keyAllowed := false }
  | _ =>
    if s.flow = 0 && !s.keyAllowed then none
    else
      let s := s.rollHere .blockMappingStart
      some { (s.advance 1).push .value with keyAllowed := s.flow = 0 }

def anchorMark? (s : Scanner) (make : String → Token) : Option Scanner := do
  let s ← s.saveKey?
  let (name, source) ← scanAnchor (s.source.skip 1)
  return { s.push (make name) with source, keyAllowed := false }

def tagMark? (s : Scanner) : Option Scanner := do
  let s ← s.saveKey?
  let (token, source) ← scanTag (0 < s.flow) s.source
  return { s.push token with source, keyAllowed := false }

def blockScalar? (s : Scanner) (literal : Bool) : Option Scanner := do
  let s ← s.removeKey?
  let (text, source) ← scanBlock literal s.indent (s.source.skip 1)
  let style := if literal then Style.literal else .other
  return { s.push (.scalar (String.ofList text) style) with source, keyAllowed := true }

def quotedScalar? (s : Scanner) (single : Bool) : Option Scanner := do
  let s ← s.saveKey?
  let (text, source) ← scanQuoted single (s.source.size + 1) [] (s.source.skip 1)
  return { s.push (.scalar (String.ofList text) .other) with source, keyAllowed := false }

def plainScalar? (s : Scanner) : Option Scanner := do
  let s ← s.saveKey?
  let (text, broken, source) ←
    scanPlain (0 < s.flow) (s.indent + 1) (s.source.size + 1) [] {} s.source
  return { s.push (.scalar (String.ofList text) .plain) with source, keyAllowed := broken }

def isIndicator (c : Char) : Bool := "-?:,[]\x7b\x7d#&*!|>'\"%@`".toList.contains c

def token? (s : Scanner) (c : Char) (next : List Char) : Option Scanner :=
  let flow := 0 < s.flow
  if s.source.column = 0 && c = '%' then do
    let s ← s.closeBlocks?
    let (token, source) ← scanDirective (s.source.skip 1)
    return { s.push token with source }
  else if s.source.atDocumentMark then
    s.closeBlocks?.map fun s =>
      (s.advance 3).push (if c = '-' then .documentStart else .documentEnd)
  else if c = '[' then s.openFlow? .flowSequenceStart
  else if c = '\x7b' then s.openFlow? .flowMappingStart
  else if c = ']' then s.closeFlow? .flowSequenceEnd
  else if c = '\x7d' then s.closeFlow? .flowMappingEnd
  else if c = ',' then s.flowEntry?
  else if c = '-' && atGap next then s.blockEntry?
  else if c = '?' && (flow || atGap next) then s.explicitKey?
  else if c = ':' && (flow || atGap next) then s.valueMark?
  else if c = '*' then s.anchorMark? .alias
  else if c = '&' then s.anchorMark? .anchor
  else if c = '!' then s.tagMark?
  else if c = '|' && !flow then s.blockScalar? true
  else if c = '>' && !flow then s.blockScalar? false
  else if c = '\'' then s.quotedScalar? true
  else if c = '"' then s.quotedScalar? false
  else if !(isBlank c || isIndicator c) || c = '-' || (!flow && (c = '?' || c = ':')) then
    s.plainScalar?
  else none

/-- Scans to the end of the text. Every step takes at least one character. -/
def run : Nat → Scanner → Option Scanner
  | 0, _ => none
  | fuel + 1, s => do
    let s := toToken (s.source.size + 1) s
    let s ← s.dropStaleKeys?
    let s := s.unrollTo s.source.column
    match s.source.rest with
    | [] => s.closeBlocks?
    | c :: next =>
      let s ← s.token? c next
      run fuel s

end Scanner

def tokens? (text : String) : Option (List Token) :=
  let chars := text.toList
  if chars.all isAllowed then
    (Scanner.run (chars.length + 1) { source := .ofChars chars }).map fun s => s.tokens.reverse
  else none

end ApiBindings.Yaml
