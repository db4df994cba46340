import ApiBindings.Number.Shortest
import ApiBindings.Text.Quoted
import ApiBindings.Yaml.Token

namespace ApiBindings.Yaml

/-- The value of a scalar. Whole numbers of more than 64 bits are kept apart. -/
inductive ScalarValue where
  | null
  | bool (value : Bool)
  | whole (value : Int)
  | wide (value : Int)
  | float (value : Number.Binary64)
  | infinite (negative : Bool)
  | notANumber
  | text (value : String)
  deriving DecidableEq, Repr

def isNullText (s : String) : Bool := s = "null" || s = "Null" || s = "NULL" || s = "~"

def boolOf? (s : String) : Option Bool :=
  if s = "true" || s = "True" || s = "TRUE" then some true
  else if s = "false" || s = "False" || s = "FALSE" then some false
  else none

def digitValue? (base : Nat) (c : Char) : Option Nat :=
  let value :=
    if '0' ≤ c ∧ c ≤ '9' then c.toNat - 48
    else if 'a' ≤ c ∧ c ≤ 'z' then c.toNat - 87
    else if 'A' ≤ c ∧ c ≤ 'Z' then c.toNat - 55
    else base
  if value < base then some value else none

def digits? (base : Nat) (cs : List Char) : Option Nat :=
  if cs.isEmpty then none
  else cs.foldl (fun n c => n.bind fun n => (digitValue? base c).map (n * base + ·)) (some 0)

def basedDigits? : List Char → Option Nat
  | '0' :: 'x' :: rest => digits? 16 rest
  | '0' :: 'o' :: rest => digits? 8 rest
  | '0' :: 'b' :: rest => digits? 2 rest
  | _ => none

/-- A zero in front of further digits makes a text, not a number. -/
def hasLeadingZero (cs : List Char) : Bool :=
  match cs with
  | '0' :: rest => !rest.isEmpty && rest.all Char.isDigit
  | _ => false

def wholeOf? (cs : List Char) : Option Int :=
  let (negative, rest) := Number.splitSign cs
  if hasLeadingZero rest then none
  else ((basedDigits? rest).or (digits? 10 rest)).map fun n => if negative then -(n : Int) else n

def inRange (low high n : Int) : Bool := low ≤ n && n < high

/-- The whole number that a text spells, if it fits 128 bits. -/
def integerOf? (s : String) : Option ScalarValue :=
  (wholeOf? s.toList).bind fun n =>
    if inRange (-Int.pow 2 63) (Int.pow 2 64) n then some (.whole n)
    else if inRange (-Int.pow 2 127) (Int.pow 2 128) n then some (.wide n)
    else none

/-- The float that a text spells. A decimal that is too large is none. -/
def floatOf? (s : String) : Option ScalarValue :=
  let unsigned := match s.toList with
    | '+' :: rest => rest
    | cs => cs
  let positive := String.ofList unsigned
  if positive = ".inf" || positive = ".Inf" || positive = ".INF" then some (.infinite false)
  else if s = "-.inf" || s = "-.Inf" || s = "-.INF" then some (.infinite true)
  else if s = ".nan" || s = ".NaN" || s = ".NAN" then some .notANumber
  else if unsigned.length < s.toList.length &&
      (unsigned.head? = some '+' || unsigned.head? = some '-') then none
  else
    match Number.FloatText.parse? unsigned with
    | some (.finite d) => d.toBinary64?.map .float
    | _ => none

def plainValue (s : String) : ScalarValue :=
  if s.isEmpty || isNullText s then .null
  else
    match boolOf? s with
    | some b => .bool b
    | none =>
      match integerOf? s with
      | some v => v
      | none =>
        if hasLeadingZero (Number.splitSign s.toList).2 then .text s
        else (floatOf? s).getD (.text s)

inductive CoreTag where
  | bool
  | int
  | float
  | null
  deriving DecidableEq, Repr

def coreTag? (tag : String) : Option CoreTag :=
  if tag = "tag:yaml.org,2002:bool" then some .bool
  else if tag = "tag:yaml.org,2002:int" then some .int
  else if tag = "tag:yaml.org,2002:float" then some .float
  else if tag = "tag:yaml.org,2002:null" then some .null
  else none

def localTag? (tag : Option String) : Option String :=
  match tag.map String.toList with
  | some ['!'] => some "!"
  | some ('!' :: name) => some (String.ofList name)
  | _ => none

/-- The value that a core tag demands of a text, or what it asks for in words. -/
def taggedValue (tag : CoreTag) (s : String) : Except String ScalarValue :=
  match tag with
  | .bool => (boolOf? s).elim (.error "a boolean") fun b => .ok (.bool b)
  | .int => (integerOf? s).elim (.error "an integer") .ok
  | .float => (floatOf? s).elim (.error "a float") .ok
  | .null => if isNullText s then .ok .null else .error "null"

/-- The value of a scalar. Local tags do not change it, and any further tag makes it a text. -/
def scalarValue (s : String) (style : Style) (tag : Option String) : Except String ScalarValue :=
  match tag with
  | none => .ok (if style = .plain then plainValue s else .text s)
  | some t =>
    match coreTag? t with
    | some core => taggedValue core s
    | none =>
      if t.toList.head? = some '!' && style = .plain then .ok (plainValue s) else .ok (.text s)

def ScalarValue.describe : ScalarValue → String
  | .null => "unit value"
  | .bool b => s!"boolean `{b}`"
  | .whole n => s!"integer `{n}`"
  | .wide n =>
    let width := if n < 0 then "i128" else "u128"
    s!"integer `{n}` as {width}"
  | .float x => s!"floating point `{String.ofList x.toPositionalChars}`"
  | .infinite negative => if negative then "floating point `-inf`" else "floating point `inf`"
  | .notANumber => "floating point `NaN`"
  | .text s => s!"string {Text.quoted s}"

end ApiBindings.Yaml
