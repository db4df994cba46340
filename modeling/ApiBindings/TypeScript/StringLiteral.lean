namespace ApiBindings.TypeScript

def quoteFor (cs : List Char) : Char := if cs.count '"' > cs.count '\'' then '\'' else '"'

def hexPair (n : Nat) : List Char := [Nat.digitChar (n / 16), Nat.digitChar (n % 16)]

/-- A character in a literal, given the character after it: an escaped zero must not run into a
digit. -/
def escapedChar (quote : Char) (c : Char) (next : Option Char) : List Char :=
  match c with
  | '\x00' => if next.any Char.isDigit then ['\\', 'x', '0', '0'] else ['\\', '0']
  | '\x08' => ['\\', 'b']
  | '\x0c' => ['\\', 'f']
  | '\n' => ['\\', 'n']
  | '\r' => ['\\', 'r']
  | '\x0b' => ['\\', 'v']
  | '\t' => ['\t']
  | '\\' => ['\\', '\\']
  | '\u2028' => "\\u2028".toList
  | '\u2029' => "\\u2029".toList
  | '\ufeff' => "\\uFEFF".toList
  | c =>
    if c = quote then ['\\', c]
    else if c.toNat < 0x20 then '\\' :: 'x' :: hexPair c.toNat
    else [c]

def escapedChars (quote : Char) : List Char → List Char
  | [] => []
  | c :: rest => escapedChar quote c rest.head? ++ escapedChars quote rest

def literalChars (cs : List Char) : List Char :=
  quoteFor cs :: escapedChars (quoteFor cs) cs ++ [quoteFor cs]

def stringLiteral (s : String) : String := String.ofList (literalChars s.toList)

end ApiBindings.TypeScript
