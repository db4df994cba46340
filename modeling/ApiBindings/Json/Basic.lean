import ApiBindings.Number.Shortest

namespace ApiBindings

/-- A number of a JSON value: whole within 64 bits, signed or unsigned, else a float. -/
inductive Numeral where
  | whole (value : Int)
  | float (value : Number.Binary64)
  deriving DecidableEq, Repr

/-- A JSON value. The members of an object keep their order. -/
inductive Json where
  | null
  | bool (value : Bool)
  | number (value : Numeral)
  | string (value : String)
  | array (items : List Json)
  | object (members : List (String × Json))
  deriving Repr, Inhabited

def Numeral.chars : Numeral → List Char
  | .whole (.ofNat n) => Nat.toDigits 10 n
  | .whole (.negSucc n) => '-' :: Nat.toDigits 10 (n + 1)
  | .float x => x.toChars

namespace Json

/-- Control characters have two-letter escapes or four hexadecimal digits; all others but the quote
and the backslash stand for themselves. -/
def escapedChar (c : Char) : List Char :=
  match c with
  | '"' => ['\\', '"']
  | '\\' => ['\\', '\\']
  | '\x08' => ['\\', 'b']
  | '\x0c' => ['\\', 'f']
  | '\n' => ['\\', 'n']
  | '\r' => ['\\', 'r']
  | '\t' => ['\\', 't']
  | c =>
    if c.toNat < 0x20 then
      ['\\', 'u', '0', '0', Nat.digitChar (c.toNat / 16), Nat.digitChar (c.toNat % 16)]
    else [c]

def stringChars (s : String) : List Char := '"' :: s.toList.flatMap escapedChar ++ ['"']

mutual

def chars : Json → List Char
  | .null => ['n', 'u', 'l', 'l']
  | .bool true => ['t', 'r', 'u', 'e']
  | .bool false => ['f', 'a', 'l', 's', 'e']
  | .number n => n.chars
  | .string s => stringChars s
  | .array items => '[' :: itemsChars items ++ [']']
  | .object members => '\x7b' :: membersChars members ++ ['\x7d']

def itemsChars : List Json → List Char
  | [] => []
  | [item] => chars item
  | item :: rest => chars item ++ ',' :: itemsChars rest

def membersChars : List (String × Json) → List Char
  | [] => []
  | [(key, value)] => stringChars key ++ ':' :: chars value
  | (key, value) :: rest => stringChars key ++ ':' :: (chars value ++ ',' :: membersChars rest)

end

def render (j : Json) : String := String.ofList j.chars

end Json

end ApiBindings
