namespace ApiBindings.Json

/-- A place in a text: lines count from 1, and a column is the number of bytes before it. -/
structure Place where
  line : Nat
  column : Nat
  deriving DecidableEq, Repr, Inhabited

namespace Place

def start : Place := ⟨1, 0⟩

def after (p : Place) (c : Char) : Place :=
  if c = '\n' then ⟨p.line + 1, 0⟩ else ⟨p.line, p.column + c.utf8Size⟩

def afterAll (p : Place) (cs : List Char) : Place := cs.foldl after p

def bytesOn : Place → Nat → List Char → Place
  | p, _, [] => p
  | p, n, c :: rest =>
    if n = 0 then p
    else if c.utf8Size ≤ n then bytesOn (p.after c) (n - c.utf8Size) rest
    else ⟨p.line, p.column + n⟩

/-- One byte further: the place of a flaw in the character that comes next. -/
def onNext (p : Place) (rest : List Char) : Place := p.bytesOn 1 rest

end Place

inductive Flaw where
  | endInList
  | endInObject
  | endInString
  | endInValue
  | expectedColon
  | expectedListCommaOrEnd
  | expectedObjectCommaOrEnd
  | expectedIdent
  | expectedValue
  | invalidEscape
  | invalidNumber
  | numberOutOfRange
  | controlCharacter
  | keyMustBeString
  | loneSurrogate
  | trailingComma
  | trailingCharacters
  | endOfHexEscape
  | tooDeep
  deriving DecidableEq, Repr, Inhabited

def Flaw.message : Flaw → String
  | .endInList => "EOF while parsing a list"
  | .endInObject => "EOF while parsing an object"
  | .endInString => "EOF while parsing a string"
  | .endInValue => "EOF while parsing a value"
  | .expectedColon => "expected `:`"
  | .expectedListCommaOrEnd => "expected `,` or `]`"
  | .expectedObjectCommaOrEnd => "expected `,` or `\x7d`"
  | .expectedIdent => "expected ident"
  | .expectedValue => "expected value"
  | .invalidEscape => "invalid escape"
  | .invalidNumber => "invalid number"
  | .numberOutOfRange => "number out of range"
  | .controlCharacter => "control character (\\u0000-\\u001F) found while parsing a string"
  | .keyMustBeString => "key must be a string"
  | .loneSurrogate => "lone leading surrogate in hex escape"
  | .trailingComma => "trailing comma"
  | .trailingCharacters => "trailing characters"
  | .endOfHexEscape => "unexpected end of hex escape"
  | .tooDeep => "recursion limit exceeded"

structure BadText where
  flaw : Flaw
  place : Place
  deriving DecidableEq, Repr, Inhabited

def BadText.message (e : BadText) : String :=
  s!"{e.flaw.message} at line {e.place.line} column {e.place.column}"

end ApiBindings.Json
