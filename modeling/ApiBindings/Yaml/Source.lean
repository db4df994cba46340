namespace ApiBindings.Yaml

def isAllowed (c : Char) : Bool :=
  let n := c.toNat
  n = 0x09 || n = 0x0A || n = 0x0D || (0x20 ≤ n && n ≤ 0x7E) || n = 0x85 ||
    (0xA0 ≤ n && n ≤ 0xD7FF) || (0xE000 ≤ n && n ≤ 0xFFFD) || 0x10000 ≤ n

def isBreak (c : Char) : Bool :=
  c = '\n' || c = '\r' || c.toNat = 0x85 || c.toNat = 0x2028 || c.toNat = 0x2029

def isBlank (c : Char) : Bool := c = ' ' || c = '\t'

def isWordChar (c : Char) : Bool := c.isAlphanum || c = '_' || c = '-'

def atGap : List Char → Bool
  | [] => true
  | c :: _ => isBlank c || isBreak c

def atBreakOrEnd : List Char → Bool
  | [] => true
  | c :: _ => isBreak c

structure Source where
  rest : List Char
  /-- The length of the whole text, which is enough fuel for any scan. -/
  size : Nat
  index : Nat := 0
  line : Nat := 0
  column : Nat := 0
  deriving Repr, Inhabited

namespace Source

def ofChars (chars : List Char) : Source := { rest := chars, size := chars.length }

def peek? (s : Source) : Option Char := s.rest.head?

def skip (s : Source) (n : Nat) : Source :=
  { s with rest := s.rest.drop n, index := s.index + n, column := s.column + n }

/-- Splits off the longest run of characters, none of them a line break, that pass the test. -/
def span (s : Source) (p : Char → Bool) : List Char × Source :=
  let run := s.rest.takeWhile p
  (run, s.skip run.length)

def skipWhile (s : Source) (p : Char → Bool) : Source := (s.span p).2

def newLine (s : Source) (n : Nat) : Source :=
  { s with rest := s.rest.drop n, index := s.index + n, line := s.line + 1, column := 0 }

/-- Reads a line break, if one comes next. All breaks but the Unicode separators become `\n`. -/
def readBreak (s : Source) : List Char × Source :=
  match s.rest with
  | '\r' :: '\n' :: _ => (['\n'], s.newLine 2)
  | c :: _ =>
    if c.toNat = 0x2028 || c.toNat = 0x2029 then ([c], s.newLine 1)
    else if isBreak c then (['\n'], s.newLine 1)
    else ([], s)
  | [] => ([], s)

def skipBreak (s : Source) : Source := s.readBreak.2

def atDocumentMark (s : Source) : Bool :=
  s.column = 0 &&
    match s.rest with
    | '-' :: '-' :: '-' :: rest => atGap rest
    | '.' :: '.' :: '.' :: rest => atGap rest
    | _ => false

/-- Passes over blanks and a comment to the end of the line; anything else there is refused. -/
def finishLine? (s : Source) : Option Source :=
  let s := s.skipWhile isBlank
  let s := if s.peek? = some '#' then s.skipWhile fun c => !isBreak c else s
  if atBreakOrEnd s.rest then some s.skipBreak else none

end Source

end ApiBindings.Yaml
