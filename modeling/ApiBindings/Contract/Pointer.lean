namespace ApiBindings.Contract

/-- A JSON Pointer into the contract, without the `#` before it. -/
structure Pointer where
  text : String
  deriving DecidableEq, Repr

inductive BadPointer where
  | notSameDocument
  | malformed (text : String)
  deriving DecidableEq, Repr

def BadPointer.message : BadPointer → String
  | .notSameDocument => "references must start with `#`; external references aren't supported"
  | .malformed text => s!"invalid JSON Pointer syntax: `{text}`"

namespace Pointer

def escapesAreValid : List Char → Bool
  | [] => true
  | '~' :: '0' :: rest => escapesAreValid rest
  | '~' :: '1' :: rest => escapesAreValid rest
  | c :: rest => c != '~' && escapesAreValid rest

def isValid (s : List Char) : Bool :=
  (s.isEmpty || s.head? == some '/') && escapesAreValid s

def replacePair (digit char : Char) : List Char → List Char
  | [] => []
  | '~' :: d :: rest =>
    if d = digit then char :: replacePair digit char rest
    else '~' :: replacePair digit char (d :: rest)
  | c :: rest => c :: replacePair digit char rest

/-- Reads `~1` as `/` and after that `~0` as `~`, so that `~01` is read as `~1`. -/
def unescape (s : List Char) : List Char := replacePair '0' '~' (replacePair '1' '/' s)

def escape (token : List Char) : List Char :=
  token.flatMap fun c => if c = '~' then ['~', '0'] else if c = '/' then ['~', '1'] else [c]

def isTrimmed (c : Char) : Bool := c ≤ ' '

def trim (s : List Char) : List Char :=
  ((s.dropWhile isTrimmed).reverse.dropWhile isTrimmed).reverse

/-- The text of a reference ends at a tab or a line break. -/
def isKept (c : Char) : Bool := c != '\t' && c != '\n' && c != '\r'

/-- Reads a reference such as `#/components/schemas/Pet`, blanks around it ignored. -/
def parse (s : String) : Except BadPointer Pointer :=
  match trim s.toList with
  | '#' :: rest =>
    let text := rest.takeWhile isKept
    if isValid text then .ok ⟨String.ofList text⟩ else .error (.malformed (String.ofList text))
  | _ => .error .notSameDocument

def afterLast {α : Type} [BEq α] (a : α) (s : List α) : List α :=
  (s.reverse.takeWhile (· != a)).reverse

def name (p : Pointer) : String := String.ofList (unescape (afterLast '/' p.text.toList))

/-- Does the pointer lead into a section, given with the `/` at its end? -/
def isIn (p : Pointer) (sectionText : String) : Bool :=
  sectionText.toList.isPrefixOf p.text.toList

end Pointer

end ApiBindings.Contract
