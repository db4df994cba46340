namespace ApiBindings.Number

/-- The mantissa has 53 bits, or fewer at the least exponent, -1074, and the greatest exponent is
971. -/
def IsCanonical (mantissa : Nat) (exponent : Int) : Prop :=
  mantissa < Nat.pow 2 53 ∧ -1074 ≤ exponent ∧ exponent ≤ 971 ∧
    (exponent = -1074 ∨ Nat.pow 2 52 ≤ mantissa)

instance (mantissa : Nat) (exponent : Int) : Decidable (IsCanonical mantissa exponent) :=
  inferInstanceAs (Decidable (_ ∧ _))

/-- The number `± mantissa · 2 ^ exponent`, written in one way only. -/
structure Binary64 where
  negative : Bool
  mantissa : Nat
  exponent : Int
  canonical : IsCanonical mantissa exponent
  deriving DecidableEq, Repr

/-- The quotient rounded to the nearest whole number, a half to the even neighbour. -/
def roundDiv (num den : Nat) : Nat :=
  let q := num / den
  let twice := 2 * (num % den)
  if den < twice || (twice == den && q % 2 == 1) then q + 1 else q

/-- The exponent of the greatest power of two that is at most `num / den`, both positive. -/
def floorLog2Div (num den : Nat) : Int :=
  let k : Int := (num.log2 : Int) - (den.log2 : Int)
  if num * Nat.pow 2 (-k).toNat < den * Nat.pow 2 k.toNat then k - 1 else k

namespace Binary64

def zero (negative : Bool) : Binary64 := ⟨negative, 0, -1074, by decide⟩

def isZero (x : Binary64) : Bool := x.mantissa == 0

def negate (x : Binary64) : Binary64 := { x with negative := !x.negative }

/-- The number nearest to `num / den`, a tie going to the even mantissa, unless it is too large. -/
def ofRatio? (negative : Bool) (num den : Nat) : Option Binary64 :=
  if num = 0 then some (zero negative)
  else
    let q := max (floorLog2Div num den - 52) (-1074)
    let m := roundDiv (num * Nat.pow 2 (-q).toNat) (den * Nat.pow 2 q.toNat)
    let (mantissa, exponent) := if m = Nat.pow 2 53 then (Nat.pow 2 52, q + 1) else (m, q)
    if h : IsCanonical mantissa exponent then some ⟨negative, mantissa, exponent, h⟩ else none

def num (x : Binary64) : Nat := x.mantissa * Nat.pow 2 x.exponent.toNat

def den (x : Binary64) : Nat := Nat.pow 2 (-x.exponent).toNat

def mul? (x y : Binary64) : Option Binary64 :=
  ofRatio? (x.negative != y.negative) (x.num * y.num) (x.den * y.den)

def div? (x y : Binary64) : Option Binary64 :=
  ofRatio? (x.negative != y.negative) (x.num * y.den) (x.den * y.num)

end Binary64

end ApiBindings.Number
