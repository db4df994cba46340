import ApiBindings.Number.Binary64

namespace ApiBindings.Number

/-- The number `± digits · 10 ^ exponent`. -/
structure Decimal where
  negative : Bool
  digits : Nat
  exponent : Int
  deriving DecidableEq, Repr

inductive FloatText where
  | finite (value : Decimal)
  | infinite (negative : Bool)
  | notANumber
  deriving DecidableEq, Repr

def digitsValue (ds : List Char) : Nat := ds.foldl (fun n d => n * 10 + (d.toNat - 48)) 0

def splitSign : List Char → Bool × List Char
  | '-' :: rest => (true, rest)
  | '+' :: rest => (false, rest)
  | cs => (false, cs)

def exponentPart? : List Char → Option Int
  | [] => some 0
  | e :: rest =>
    if e = 'e' || e = 'E' then
      match splitSign rest with
      | (_, []) => none
      | (negative, ds) =>
        if ds.all Char.isDigit then
          some (if negative then -(digitsValue ds : Int) else digitsValue ds)
        else none
    else none

def splitFraction : List Char → List Char × List Char
  | '.' :: rest => rest.span Char.isDigit
  | cs => ([], cs)

def magnitude? (negative : Bool) (cs : List Char) : Option Decimal :=
  let (whole, afterWhole) := cs.span Char.isDigit
  let (fraction, afterFraction) := splitFraction afterWhole
  if whole.isEmpty && fraction.isEmpty then none
  else (exponentPart? afterFraction).map fun e =>
    ⟨negative, digitsValue (whole ++ fraction), e - fraction.length⟩

def FloatText.parse? (cs : List Char) : Option FloatText :=
  let (negative, rest) := splitSign cs
  let word := String.ofList (rest.map Char.toLower)
  if word = "inf" || word = "infinity" then some (.infinite negative)
  else if word = "nan" then some .notANumber
  else (magnitude? negative rest).map .finite

/-- The nearest floating-point number, unless it is too large. The bounds on the exponent only
keep the powers of ten small: beyond them the answer is known. -/
def Decimal.toBinary64? (d : Decimal) : Option Binary64 :=
  let size : Int := d.exponent + (Nat.toDigits 10 d.digits).length
  if d.digits = 0 || size < -330 then some (.zero d.negative)
  else if 310 < size then none
  else Binary64.ofRatio? d.negative (d.digits * Nat.pow 10 d.exponent.toNat)
    (Nat.pow 10 (-d.exponent).toNat)

end ApiBindings.Number
