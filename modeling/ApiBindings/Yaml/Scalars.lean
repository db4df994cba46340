import ApiBindings.Yaml.Token

namespace ApiBindings.Yaml

/-- Blanks and line breaks between two parts of a scalar. Of the breaks one becomes a blank, and of
several the first is dropped. -/
structure Fold where
  blanks : List Char := []
  broken : Bool := false
  first : List Char := []
  more : List Char := []

def Fold.chars (g : Fold) : List Char :=
  if g.broken then
    if g.first.head? = some '\n' then (if g.more.isEmpty then [' '] else g.more)
    else g.first ++ g.more
  else g.blanks

/-- Passes over blanks and line breaks. A tab before column `indent` of a new line is refused. -/
def scanFold (indent : Int) : Nat → Fold → Source → Option (Fold × Source)
  | 0, g, s => some (g, s)
  | fuel + 1, g, s =>
    match s.rest with
    | [] => some (g, s)
    | c :: _ =>
      if isBlank c then
        if g.broken && c = '\t' && (s.column : Int) < indent then none
        else if g.broken then scanFold indent fuel g (s.skip 1)
        else scanFold indent fuel { g with blanks := g.blanks ++ [c] } (s.skip 1)
      else if isBreak c then
        let (text, s) := s.readBreak
        if g.broken then scanFold indent fuel { g with more := g.more ++ text } s
        else scanFold indent fuel { g with blanks := [], broken := true, first := text } s
      else some (g, s)

def isFlowIndicator (c : Char) : Bool :=
  c = ',' || c = '[' || c = ']' || c = '\x7b' || c = '\x7d'

/-- Takes the characters of a plain scalar up to a blank or an indicator that ends it. In a flow
collection a colon before another indicator is refused. -/
def plainRun (flow : Bool) : List Char → List Char → Option (List Char)
  | read, [] => some read
  | read, c :: rest =>
    if isBlank c || isBreak c then some read
    else if flow && c = ':' && (rest.head?.map fun d => d = '?' || isFlowIndicator d) = some true
      then none
    else if (c = ':' && atGap rest) || (flow && isFlowIndicator c) then some read
    else plainRun flow (c :: read) rest

/-- Scans a plain scalar; `read` holds its characters backwards. The flag tells whether a line
ended behind it. -/
def scanPlain (flow : Bool) (indent : Int) :
    Nat → List Char → Fold → Source → Option (List Char × Bool × Source)
  | 0, read, g, s => some (read.reverse, g.broken, s)
  | fuel + 1, read, g, s =>
    if s.atDocumentMark || s.peek? = some '#' then some (read.reverse, g.broken, s)
    else
      match plainRun flow [] s.rest with
      | none => none
      | some run =>
        let (read, g) := if run.isEmpty then (read, g) else (run ++ g.chars.reverse ++ read, {})
        let s := s.skip run.length
        match s.rest with
        | [] => some (read.reverse, g.broken, s)
        | c :: _ =>
          if !(isBlank c || isBreak c) then some (read.reverse, g.broken, s)
          else
            match scanFold indent s.size g s with
            | none => none
            | some (g, s) =>
              if !flow && (s.column : Int) < indent then some (read.reverse, g.broken, s)
              else scanPlain flow indent fuel read g s

def hexDigit? (c : Char) : Option Nat :=
  if '0' ≤ c ∧ c ≤ '9' then some (c.toNat - 48)
  else if 'a' ≤ c ∧ c ≤ 'f' then some (c.toNat - 87)
  else if 'A' ≤ c ∧ c ≤ 'F' then some (c.toNat - 55)
  else none

def hexNumber? (n : Nat) (cs : List Char) : Option Nat :=
  let digits := cs.take n
  if digits.length = n then
    digits.foldl (fun value c => value.bind fun v => (hexDigit? c).map (v * 16 + ·)) (some 0)
  else none

def letterEscape? (c : Char) : Option Char :=
  match c with
  | '0' => some '\x00'
  | 'a' => some '\x07'
  | 'b' => some '\x08'
  | 't' | '\t' => some '\t'
  | 'n' => some '\n'
  | 'v' => some '\x0b'
  | 'f' => some '\x0c'
  | 'r' => some '\r'
  | 'e' => some '\x1b'
  | ' ' => some ' '
  | '"' => some '"'
  | '/' => some '/'
  | '\\' => some '\\'
  | 'N' => some '\u0085'
  | '_' => some '\u00a0'
  | 'L' => some '\u2028'
  | 'P' => some '\u2029'
  | _ => none

def escapeDigits? (c : Char) : Option Nat :=
  match c with
  | 'x' => some 2
  | 'u' => some 4
  | 'U' => some 8
  | _ => none

/-- The character of an escape, from behind its backslash, and the number of characters it takes. -/
def escape? : List Char → Option (Char × Nat)
  | [] => none
  | c :: rest =>
    match letterEscape? c, escapeDigits? c with
    | some plain, _ => some (plain, 1)
    | none, some n =>
      (hexNumber? n rest).bind fun value =>
        if (0xD800 ≤ value && value ≤ 0xDFFF) || 0x10FFFF < value then none
        else some (Char.ofNat value, n + 1)
    | none, none => none

inductive QuotedStop where
  | closed
  | gap
  | escapedBreak

def quotedRun (single : Bool) : Nat → List Char → Source → Option (List Char × QuotedStop × Source)
  | 0, _, _ => none
  | fuel + 1, read, s =>
    match s.rest with
    | [] => some (read, .gap, s)
    | c :: rest =>
      if isBlank c || isBreak c then some (read, .gap, s)
      else if single && c = '\'' then
        if rest.head? = some '\'' then quotedRun single fuel ('\'' :: read) (s.skip 2)
        else some (read, .closed, s.skip 1)
      else if !single && c = '"' then some (read, .closed, s.skip 1)
      else if !single && c = '\\' then
        if (rest.head?.map isBreak) = some true then
          some (read, .escapedBreak, (s.skip 1).skipBreak)
        else
          match escape? rest with
          | some (plain, n) => quotedRun single fuel (plain :: read) (s.skip (n + 1))
          | none => none
      else quotedRun single fuel (c :: read) (s.skip 1)

def scanQuoted (single : Bool) : Nat → List Char → Source → Option (List Char × Source)
  | 0, _, _ => none
  | fuel + 1, read, s =>
    if s.atDocumentMark || s.rest.isEmpty then none
    else
      match quotedRun single (s.size + 1) read s with
      | none => none
      | some (read, .closed, s) => some (read.reverse, s)
      | some (read, stop, s) =>
        let start : Fold := match stop with
          | .escapedBreak => { broken := true }
          | _ => {}
        match scanFold 0 s.size start s with
        | none => none
        | some (g, s) => scanQuoted single fuel (g.chars.reverse ++ read) s

inductive Chomping where
  | strip
  | clip
  | keep
  deriving DecidableEq, Repr

def chomping? (c : Char) : Option Chomping :=
  if c = '+' then some .keep else if c = '-' then some .strip else none

/-- The marks behind the indicator of a block scalar, in either order: an indentation other than 0,
and the chomping. -/
def blockHeader? (s : Source) : Option (Nat × Chomping × Source) :=
  let digit (s : Source) : Option (Nat × Source) :=
    match s.rest with
    | d :: _ =>
      if d = '0' then none
      else if d.isDigit then some (d.toNat - 48, s.skip 1)
      else some (0, s)
    | [] => some (0, s)
  match s.peek?.bind chomping? with
  | some chomp => (digit (s.skip 1)).map fun (n, s) => (n, chomp, s)
  | none =>
    (digit s).map fun (n, t) =>
      if n = 0 then (0, .clip, t)
      else
        match t.peek?.bind chomping? with
        | some chomp => (n, chomp, t.skip 1)
        | none => (n, .clip, t)

/-- Passes over empty lines of a block scalar and the indentation of the next one. With indentation
0 the widest indentation met is found instead. -/
def blockBreaks (indent : Nat) : Nat → List Char → Nat → Source → Option (List Char × Nat × Source)
  | 0, breaks, widest, s => some (breaks, widest, s)
  | fuel + 1, breaks, widest, s =>
    let spaces := (s.rest.takeWhile (· = ' ')).length
    let s := s.skip (if indent = 0 then spaces else min spaces (indent - s.column))
    let widest := max widest s.column
    if (indent = 0 || s.column < indent) && s.peek? = some '\t' then none
    else
      match s.rest with
      | [] => some (breaks, widest, s)
      | c :: _ =>
        if isBreak c then
          let (text, s) := s.readBreak
          blockBreaks indent fuel (breaks ++ text) widest s
        else some (breaks, widest, s)

/-- Scans the lines of a block scalar: `lead` is the break behind the line before, `breaks` the
empty lines that follow it, and `blank` whether that line started with a blank. -/
def blockLines (literal : Bool) (indent : Nat) :
    Nat → List Char → List Char → List Char → Bool → Source →
      Option (List Char × List Char × List Char × Source)
  | 0, text, lead, breaks, _, s => some (text, lead, breaks, s)
  | fuel + 1, text, lead, breaks, blank, s =>
    match s.rest with
    | [] => some (text, lead, breaks, s)
    | c :: _ =>
      if s.column ≠ indent then some (text, lead, breaks, s)
      else
        let startsBlank := isBlank c
        let join :=
          if !literal && lead.head? = some '\n' && !blank && !startsBlank then
            if breaks.isEmpty then [' '] else []
          else lead
        let (line, s) := s.span fun c => !isBreak c
        let (lead, s) := s.readBreak
        match blockBreaks indent (s.size + 1) [] 0 s with
        | none => none
        | some (next, _, s) =>
          blockLines literal indent fuel (text ++ join ++ breaks ++ line) lead next startsBlank s

def scanBlock (literal : Bool) (parent : Int) (s : Source) : Option (List Char × Source) := do
  let (increment, chomp, s) ← blockHeader? s
  let s ← s.finishLine?
  let given := if increment = 0 then 0 else (max parent 0).toNat + increment
  let (breaks, widest, s) ← blockBreaks given (s.size + 1) [] 0 s
  let indent := if given = 0 then max (max widest (parent + 1).toNat) 1 else given
  let (text, lead, breaks, s) ←
    blockLines literal indent (s.size + 1) [] [] breaks false s
  let text := if chomp = .strip then text else text ++ lead
  let text := if chomp = .keep then text ++ breaks else text
  return (text, s)

end ApiBindings.Yaml
