import ApiBindings.Number.Decimal

namespace ApiBindings.Number

/-- The reals that round to a number, as quotients over one denominator. The ends belong to the
interval exactly when the mantissa is even. -/
structure RoundingInterval where
  value : Nat
  low : Nat
  high : Nat
  den : Nat
  closed : Bool

/-- Below a power of two the gap to the next smaller number is half as wide. -/
def Binary64.interval (x : Binary64) : RoundingInterval :=
  let below := if x.mantissa = Nat.pow 2 52 && x.exponent != -1074 then 1 else 2
  let q := x.exponent - 2
  let scale := Nat.pow 2 q.toNat
  { value := 4 * x.mantissa * scale, low := (4 * x.mantissa - below) * scale
    high := (4 * x.mantissa + 2) * scale, den := Nat.pow 2 (-q).toNat
    closed := x.mantissa % 2 == 0 }

namespace RoundingInterval

def contains (i : RoundingInterval) (k : Int) (digits : Nat) : Bool :=
  let point := digits * Nat.pow 10 k.toNat * i.den
  let scale := Nat.pow 10 (-k).toNat
  if i.closed then i.low * scale ≤ point && point ≤ i.high * scale
  else i.low * scale < point && point < i.high * scale

/-- The better of the value's two neighbours among the multiples of `10 ^ k`, if the interval
holds one: the nearer, and of two equally near the even one. -/
def onGrid? (i : RoundingInterval) (k : Int) : Option Nat :=
  let scaled := i.value * Nat.pow 10 (-k).toNat
  let unit := Nat.pow 10 k.toNat * i.den
  let down := scaled / unit
  let twice := 2 * (scaled % unit)
  let nearer := if twice < unit || (twice == unit && down % 2 == 0) then down else down + 1
  let farther := if nearer = down then down + 1 else down
  if i.contains k nearer then some nearer
  else if i.contains k farther then some farther
  else none

/-- Goes through ever finer grids to the first with a point in the interval. -/
def search (i : RoundingInterval) : Nat → Int → Nat × Int
  | 0, k => (0, k)
  | fuel + 1, k =>
    match i.onGrid? k with
    | some digits => (digits, k)
    | none => i.search fuel (k - 1)

end RoundingInterval

def dropZeros : Nat → Nat → Int → Nat × Int
  | 0, n, k => (n, k)
  | fuel + 1, n, k => if n ≠ 0 && n % 10 == 0 then dropZeros fuel (n / 10) (k + 1) else (n, k)

/-- The shortest decimal: its digits, without zeros at the end, and the exponent of the last. -/
def Binary64.shortest (x : Binary64) : Nat × Int :=
  if x.mantissa = 0 then (0, 0)
  else
    let i := x.interval
    let start : Int :=
      if i.den ≤ i.value then (Nat.toDigits 10 (i.value / i.den)).length
      else 1 - ((Nat.toDigits 10 (i.den / i.value)).length : Int)
    let (digits, k) := i.search 20 start
    dropZeros 20 digits k

def positional (digits : List Char) (k : Int) : List Char :=
  let point : Int := digits.length + k
  if point ≤ 0 then ['0', '.'] ++ List.replicate (-point).toNat '0' ++ digits
  else if 0 ≤ k then digits ++ List.replicate k.toNat '0' ++ ['.', '0']
  else digits.take point.toNat ++ ['.'] ++ digits.drop point.toNat

def scientific (digits : List Char) (k : Int) : List Char :=
  let e : Int := digits.length + k - 1
  let fraction := match digits.drop 1 with
    | [] => []
    | ds => '.' :: ds
  digits.take 1 ++ fraction ++ ['e', if e < 0 then '-' else '+'] ++ Nat.toDigits 10 e.natAbs

/-- Numbers are written positionally from 0.00001 up to, but not including, 10 ^ 16. -/
def Binary64.toChars (x : Binary64) : List Char :=
  let (n, k) := x.shortest
  let digits := Nat.toDigits 10 n
  let e : Int := digits.length + k - 1
  let body := if -5 ≤ e && e < 16 then positional digits k else scientific digits k
  if x.negative then '-' :: body else body

def Binary64.toPositionalChars (x : Binary64) : List Char :=
  let (n, k) := x.shortest
  let body := positional (Nat.toDigits 10 n) k
  if x.negative then '-' :: body else body

end ApiBindings.Number
