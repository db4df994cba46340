namespace ApiBindings.Text.Percent

def hexValue? (c : Char) : Option UInt8 :=
  if '0' ≤ c ∧ c ≤ '9' then some (UInt8.ofNat (c.toNat - 48))
  else if 'a' ≤ c ∧ c ≤ 'f' then some (UInt8.ofNat (c.toNat - 87))
  else if 'A' ≤ c ∧ c ≤ 'F' then some (UInt8.ofNat (c.toNat - 55))
  else none

def hexDigit (n : UInt8) : Char :=
  if n < 10 then Char.ofNat (48 + n.toNat) else Char.ofNat (55 + n.toNat)

/-- The bytes a text stands for: `%` and two hexadecimal digits are one byte, any other character
is its own UTF-8 bytes. -/
def decodeBytes : List Char → List UInt8
  | [] => []
  | c :: a :: b :: rest =>
    match c, hexValue? a, hexValue? b with
    | '%', some high, some low => (high * 16 + low) :: decodeBytes rest
    | _, _, _ => String.utf8EncodeChar c ++ decodeBytes (a :: b :: rest)
  | c :: rest => String.utf8EncodeChar c ++ decodeBytes rest

def decode? (cs : List Char) : Option String :=
  String.fromUTF8? (ByteArray.mk (decodeBytes cs).toArray)

def encodeByte (b : UInt8) : List Char := ['%', hexDigit (b / 16), hexDigit (b % 16)]

def encode (select : Char → Bool) (cs : List Char) : List Char :=
  cs.flatMap fun c => if select c then (String.utf8EncodeChar c).flatMap encodeByte else [c]

end ApiBindings.Text.Percent
