import ApiBindings.Yaml.Scalars

namespace ApiBindings.Yaml

def scanAnchor (s : Source) : Option (String × Source) :=
  let (name, s) := s.span isWordChar
  let ended := atGap s.rest || (s.peek?.map fun c => "?:,]\x7d%@`".toList.contains c) = some true
  if name.isEmpty || !ended then none else some (String.ofList name, s)

def escapedByte? : List Char → Option Nat
  | '%' :: rest => hexNumber? 2 rest
  | _ => none

/-- How many bytes a character has by its first byte, and the bits of it in that byte. -/
def leadByte? (b : Nat) : Option (Nat × Nat) :=
  if b < 0x80 then some (1, b)
  else if b / 32 = 6 then some (2, b % 32)
  else if b / 16 = 14 then some (3, b % 16)
  else if b / 8 = 30 then some (4, b % 8)
  else none

def trailBytes : Nat → Nat → Source → Option (Nat × Source)
  | 0, value, s => some (value, s)
  | n + 1, value, s =>
    (escapedByte? s.rest).bind fun b =>
      if b / 64 = 2 then trailBytes n (value * 64 + b % 64) (s.skip 3) else none

def scanEscapedChar (s : Source) : Option (Char × Source) := do
  let (width, bits) ← leadByte? (← escapedByte? s.rest)
  let (value, s) ← trailBytes (width - 1) bits (s.skip 3)
  return (Char.ofNat value, s)

/-- Characters of a tag; commas and brackets belong to it only where nothing else could be meant. -/
def isTagChar (verbatim : Bool) (c : Char) : Bool :=
  isWordChar c || ";/?:@&=+$.%!~*'()".toList.contains c ||
    (verbatim && (c = ',' || c = '[' || c = ']'))

def scanTagChars (verbatim : Bool) : Nat → List Char → Source → Option (List Char × Source)
  | 0, read, s => some (read.reverse, s)
  | fuel + 1, read, s =>
    match s.rest with
    | [] => some (read.reverse, s)
    | c :: _ =>
      if !isTagChar verbatim c then some (read.reverse, s)
      else if c = '%' then
        match scanEscapedChar s with
        | some (d, s) => scanTagChars verbatim fuel (d :: read) s
        | none => none
      else scanTagChars verbatim fuel (c :: read) (s.skip 1)

/-- A tag's handle: `!`, a word, and `!` again if it is there. -/
def scanHandle (s : Source) : Option (List Char × Source) :=
  match s.rest with
  | '!' :: _ =>
    let (word, s) := (s.skip 1).span isWordChar
    if s.peek? = some '!' then some ('!' :: word ++ ['!'], s.skip 1) else some ('!' :: word, s)
  | _ => none

def isWholeHandle (handle : List Char) : Bool :=
  1 < handle.length && handle.getLast? = some '!'

/-- A tag: verbatim between `!<` and `>`, a handle with a suffix, or local. The tag `!` alone has
no handle. -/
def scanTag (flow : Bool) (s : Source) : Option (Token × Source) := do
  let (token, s) ← match s.rest with
    | '!' :: '<' :: _ => do
      let (uri, s) ← scanTagChars true s.size [] (s.skip 2)
      if uri.isEmpty || s.peek? ≠ some '>' then none
      else some (Token.tag "" (String.ofList uri), s.skip 1)
    | _ => do
      let (handle, s) ← scanHandle s
      let (suffix, s) ← scanTagChars false s.size [] s
      if isWholeHandle handle then
        if suffix.isEmpty then none
        else some (Token.tag (String.ofList handle) (String.ofList suffix), s)
      else
        let suffix := handle.drop 1 ++ suffix
        if suffix.isEmpty then some (Token.tag "" "!", s)
        else some (Token.tag "!" (String.ofList suffix), s)
  if atGap s.rest || (flow && s.peek? = some ',') then some (token, s) else none

/-- A number of a version, at most nine digits long. -/
def scanVersionNumber (s : Source) : Option (Nat × Source) :=
  let (digits, s) := s.span Char.isDigit
  if digits.isEmpty || 9 < digits.length then none
  else some (digits.foldl (fun n d => n * 10 + (d.toNat - 48)) 0, s)

def scanVersion (s : Source) : Option (Token × Source) := do
  let (major, s) ← scanVersionNumber (s.skipWhile isBlank)
  if s.peek? ≠ some '.' then none
  else
    let (minor, s) ← scanVersionNumber (s.skip 1)
    return (.versionDirective major minor, s)

def scanTagDirective (s : Source) : Option (Token × Source) := do
  let (handle, s) ← scanHandle (s.skipWhile isBlank)
  if !(isWholeHandle handle || handle = ['!']) || !((s.peek?.map isBlank) = some true) then none
  else
    let s := s.skipWhile isBlank
    let (expansion, s) ← scanTagChars true s.size [] s
    if expansion.isEmpty || !atGap s.rest then none
    else return (.tagDirective (String.ofList handle) (String.ofList expansion), s)

def scanDirective (s : Source) : Option (Token × Source) := do
  let (name, s) := s.span isWordChar
  if name.isEmpty || !atGap s.rest then none
  else
    let (token, s) ←
      if name = ['Y', 'A', 'M', 'L'] then scanVersion s
      else if name = ['T', 'A', 'G'] then scanTagDirective s
      else none
    return (token, ← s.finishLine?)

end ApiBindings.Yaml
