import ApiBindings.Text.Identifier

namespace ApiBindings.Command

structure Settings where
  client : Option Bool := none
  maxDepth : Option Nat := none
  deriving DecidableEq, Repr

namespace Settings

def isBlank (c : Char) : Bool := c == ' ' || c == '\t'

def isCommentChar (c : Char) : Bool := c == '\t' || (' ' ≤ c && c != '\x7f')

def endsLine (cs : List Char) : Bool :=
  match cs.dropWhile isBlank with
  | [] => true
  | c :: comment => c == '#' && comment.all isCommentChar

def digitValue? (radix : Nat) (c : Char) : Option Nat :=
  let value :=
    if c.isDigit then c.toNat - 48
    else if 'a' ≤ c ∧ c ≤ 'f' then c.toNat - 87
    else if 'A' ≤ c ∧ c ≤ 'F' then c.toNat - 55
    else radix
  if value < radix then some value else none

def digitsValue? (radix : Nat) (digits : List Char) : Option Nat :=
  digits.foldlM (fun value c => (digitValue? radix c).map (value * radix + ·)) 0

/-- Digits, with underscores only between them. -/
def groupedDigits? (cs : List Char) : Option (List Char) :=
  let groups := Text.splitBy (· != '_') cs
  if groups.any List.isEmpty then none else some groups.flatten

def radixValue? (radix : Nat) (cs : List Char) : Option Nat :=
  (groupedDigits? cs).bind (digitsValue? radix)

/-- A decimal numeral, whose first digit is zero only if it is the only one. -/
def decimalValue? (cs : List Char) : Option Nat :=
  match cs with
  | '0' :: _ :: _ => none
  | _ => radixValue? 10 cs

/-- The value of an integer that is not negative and has at most 64 bits. -/
def count? (cs : List Char) : Option Nat :=
  let value := match cs with
    | '0' :: 'x' :: digits => radixValue? 16 digits
    | '0' :: 'o' :: digits => radixValue? 8 digits
    | '0' :: 'b' :: digits => radixValue? 2 digits
    | '+' :: digits => decimalValue? digits
    | '-' :: digits => (decimalValue? digits).filter (· == 0)
    | digits => decimalValue? digits
  value.filter (· < Nat.pow 2 64)

def bool? (cs : List Char) : Option Bool :=
  if cs = "true".toList then some true else if cs = "false".toList then some false else none

def escapeWidth? : Char → Option Nat
  | 'x' => some 2
  | 'u' => some 4
  | 'U' => some 8
  | _ => none

def escapedChar? (width : Nat) (cs : List Char) : Option Char :=
  if cs.length < width then none
  else (digitsValue? 16 (cs.take width)).map Char.ofNat

/-- The key in double quotes and the text after it; escapes that no key has are refused. -/
def quotedKey? (cs : List Char) : Option (List Char × List Char) :=
  match cs with
  | [] => none
  | '"' :: rest => some ([], rest)
  | '\\' :: mark :: rest =>
    (escapeWidth? mark).bind fun width =>
      (escapedChar? width rest).bind fun c =>
        (quotedKey? (rest.drop width)).map fun (key, after) => (c :: key, after)
  | c :: rest => (quotedKey? rest).map fun (key, after) => (c :: key, after)
termination_by cs.length
decreasing_by all_goals simp only [List.length_cons, List.length_drop]; omega

def isBareKeyChar (c : Char) : Bool := c.isAlphanum || c == '_' || c == '-'

def key? (cs : List Char) : Option (List Char × List Char) :=
  match cs with
  | '"' :: rest => quotedKey? rest
  | '\'' :: rest =>
    match rest.dropWhile (· != '\'') with
    | [] => none
    | _ :: after => some (rest.takeWhile (· != '\''), after)
  | _ => some (cs.takeWhile isBareKeyChar, cs.dropWhile isBareKeyChar)

def set? (s : Settings) (key : String) (value : List Char) : Option Settings :=
  match key with
  | "client" =>
    if s.client.isSome then none else (bool? value).map fun b => { s with client := some b }
  | "max-depth" =>
    if s.maxDepth.isSome then none else (count? value).map fun n => { s with maxDepth := some n }
  | _ => none

def isValueChar (c : Char) : Bool := !isBlank c && c != '#'

def readLine? (s : Settings) (line : List Char) : Option Settings :=
  if endsLine line then some s
  else
    (key? (line.dropWhile isBlank)).bind fun (key, after) =>
      match after.dropWhile isBlank with
      | '=' :: rest =>
        let text := rest.dropWhile isBlank
        if endsLine (text.dropWhile isValueChar) then
          s.set? (String.ofList key) (text.takeWhile isValueChar)
        else none
      | _ => none

/-- The lines of a text, which end with a line feed or a carriage return and a line feed. -/
def lines (cs : List Char) : List (List Char) :=
  let pieces := Text.splitBy (· != '\n') cs
  pieces.dropLast.map dropReturn ++ pieces.getLast?.toList
where
  dropReturn (line : List Char) : List Char :=
    if line.getLast? = some '\r' then line.dropLast else line

def dropByteOrderMark : List Char → List Char
  | '\ufeff' :: rest => rest
  | cs => cs

def parse? (text : String) : Option Settings :=
  (lines (dropByteOrderMark text.toList)).foldlM readLine? {}

end Settings

end ApiBindings.Command
