import ApiBindings.Text.Identifier
import ApiBindings.Text.LetterRanges
import ApiBindings.Text.CaseRuns

namespace ApiBindings.Text

def inRuns (runs : List (Nat × Nat × Nat)) (n : Nat) : Bool :=
  runs.any fun (first, last, stride) => first ≤ n && n ≤ last && (n - first) % stride == 0

def isAlphanumeric (c : Char) : Bool :=
  if c.toNat < 128 then c.isAlphanum else inRanges alphanumericRanges c.toNat

def isUppercase (c : Char) : Bool :=
  if c.toNat < 128 then c.isUpper else inRuns uppercaseRuns c.toNat

def isLowercase (c : Char) : Bool :=
  if c.toNat < 128 then c.isLower else inRuns lowercaseRuns c.toNat

def imageInRuns (runs : List (Nat × Nat × Nat × Nat)) (n : Nat) : Option Nat :=
  runs.findSome? fun (first, last, stride, image) =>
    if first ≤ n && n ≤ last && (n - first) % stride == 0 then some (image + (n - first)) else none

/-- The image of a character: its long form, else its one-character form, else itself. -/
def mapCase (long : List (Nat × List Nat)) (runs : List (Nat × Nat × Nat × Nat)) (c : Char) :
    List Char :=
  match long.lookup c.toNat with
  | some codes => codes.map Char.ofNat
  | none => [((imageInRuns runs c.toNat).map Char.ofNat).getD c]

def lowercase (c : Char) : List Char :=
  if c.toNat < 128 then [c.toLower] else mapCase toLowerLong toLowerRuns c

def uppercase (c : Char) : List Char :=
  if c.toNat < 128 then [c.toUpper] else mapCase toUpperLong toUpperRuns c

end ApiBindings.Text
