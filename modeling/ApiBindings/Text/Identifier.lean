import ApiBindings.Text.IdentifierRanges

namespace ApiBindings.Text

def inRanges (ranges : List (Nat × Nat)) (n : Nat) : Bool :=
  ranges.any fun r => r.1 ≤ n && n ≤ r.2

/-- May the character stand first in an identifier, `$` and `_` apart? -/
def isIdentifierStart (c : Char) : Bool :=
  if c.toNat < 128 then c.isAlpha else inRanges identifierStartRanges c.toNat

def isIdentifierContinue (c : Char) : Bool :=
  if c.toNat < 128 then c.isAlphanum || c == '_'
  else inRanges identifierStartRanges c.toNat || inRanges identifierOnlyContinueRanges c.toNat

def isIdentifierPart (c : Char) : Bool := c == '$' || isIdentifierContinue c

def isIdentifierChars : List Char → Bool
  | [] => false
  | c :: rest => (c == '$' || c == '_' || isIdentifierStart c) && rest.all isIdentifierPart

def isIdentifier (s : String) : Bool := isIdentifierChars s.toList

/-- Splits a list at every element that fails the test; the pieces may be empty. -/
def splitBy {α : Type} (keep : α → Bool) : List α → List (List α)
  | [] => [[]]
  | a :: rest =>
    match splitBy keep rest with
    | [] => [[]]
    | piece :: pieces => if keep a then (a :: piece) :: pieces else [] :: piece :: pieces

/-- Replaces every run of characters that no identifier may hold by `_`, and drops such runs at
both ends. -/
def identifierChars (cs : List Char) : List Char :=
  List.intercalate ['_'] ((splitBy isIdentifierPart cs).filter fun piece => !piece.isEmpty)

end ApiBindings.Text
