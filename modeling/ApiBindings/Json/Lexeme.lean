import ApiBindings.Json.Basic
import ApiBindings.Json.Flaw

/-!
Strings and numbers at the front of JSON text. A value can be read, or skipped because nobody asks
for it; skipping checks less, so each lexeme tells what both would say.
-/
namespace ApiBindings.Json

structure Cursor where
  rest : List Char
  place : Place
  deriving Repr, Inhabited

namespace Cursor

def start (text : String) : Cursor := ⟨text.toList, .start⟩

def isBlank (c : Char) : Bool := c = ' ' || c = '\n' || c = '\t' || c = '\r'

def skipBlanks (s : Cursor) : Cursor :=
  ⟨s.rest.dropWhile isBlank, s.place.afterAll (s.rest.takeWhile isBlank)⟩

def drop (s : Cursor) (n : Nat) : Cursor := ⟨s.rest.drop n, s.place.afterAll (s.rest.take n)⟩

def flawHere (s : Cursor) (f : Flaw) : BadText := ⟨f, s.place⟩

def flawNext (s : Cursor) (f : Flaw) : BadText := ⟨f, s.place.onNext s.rest⟩

end Cursor

/-- A lexeme: whole as far as skipping goes, with its value if it can be read, and what follows; or
broken off, with the flaw for a reader and for a skipper. -/
inductive Lexeme (α : Type) where
  | whole (value : Except BadText α) (after : Cursor)
  | broken (reading skipping : BadText)

def Lexeme.flawed {α : Type} (e : BadText) : Lexeme α := .broken e e

def hexValue? (c : Char) : Option Nat :=
  if '0' ≤ c ∧ c ≤ '9' then some (c.toNat - 48)
  else if 'a' ≤ c ∧ c ≤ 'f' then some (c.toNat - 87)
  else if 'A' ≤ c ∧ c ≤ 'F' then some (c.toNat - 55)
  else none

def hexUnit? : List Char → Option Nat
  | a :: b :: c :: d :: _ =>
    match hexValue? a, hexValue? b, hexValue? c, hexValue? d with
    | some a, some b, some c, some d => some (((a * 16 + b) * 16 + c) * 16 + d)
    | _, _, _, _ => none
  | _ => none

def isHighSurrogate (n : Nat) : Bool := 0xD800 ≤ n && n ≤ 0xDBFF

def isLowSurrogate (n : Nat) : Bool := 0xDC00 ≤ n && n ≤ 0xDFFF

def joinSurrogates (high low : Nat) : Char :=
  Char.ofNat ((high - 0xD800) * 0x400 + (low - 0xDC00) + 0x10000)

def hexFlaw (s : Cursor) : BadText :=
  if s.rest.foldl (fun n c => n + c.utf8Size) 0 < 4 then ⟨.endInString, s.place.afterAll s.rest⟩
  else ⟨.invalidEscape, s.place.bytesOn 4 s.rest⟩

/-- Why no second half follows a leading surrogate, the cursor standing behind the first; nothing
if one does. -/
def pairFlaw? (s : Cursor) : Option BadText :=
  match s.rest with
  | [] => some (s.flawHere .endInString)
  | '\\' :: [] => some ((s.drop 1).flawHere .endInString)
  | '\\' :: 'u' :: digits =>
    match hexUnit? digits with
    | some n => if isLowSurrogate n then none else some ((s.drop 6).flawHere .loneSurrogate)
    | none => some (hexFlaw (s.drop 2))
  | '\\' :: _ => some ((s.drop 1).flawNext .endOfHexEscape)
  | _ => some (s.flawNext .endOfHexEscape)

def simpleEscape? (c : Char) : Option Char :=
  match c with
  | '"' => some '"'
  | '\\' => some '\\'
  | '/' => some '/'
  | 'b' => some '\x08'
  | 'f' => some '\x0c'
  | 'n' => some '\n'
  | 'r' => some '\r'
  | 't' => some '\t'
  | _ => none

def pushChar (read : Except BadText (List Char)) (c : Char) : Except BadText (List Char) :=
  read.map (c :: ·)

def noteFlaw (read : Except BadText (List Char)) (e : BadText) : Except BadText (List Char) :=
  read.bind fun _ => .error e

def firstFlaw (read : Except BadText (List Char)) (e : BadText) : BadText :=
  match read with
  | .ok _ => e
  | .error first => first

/-- Takes a code unit written as four digits: a whole character, or half of a pair. -/
def pushUnit (read : Except BadText (List Char)) (high : Option Nat) (n : Nat) (after : Cursor) :
    Except BadText (List Char) × Option Nat :=
  if isLowSurrogate n then
    match high with
    | some h => (pushChar read (joinSurrogates h n), none)
    | none => (noteFlaw read (after.flawHere .loneSurrogate), none)
  else if isHighSurrogate n then
    match pairFlaw? after with
    | some e => (noteFlaw read e, none)
    | none => (read, some n)
  else (pushChar read (Char.ofNat n), none)

/-- Scans a string behind its opening quote. `read` holds its characters backwards, and `high` the
first half of a pair whose second half comes next. -/
def scanString (read : Except BadText (List Char)) (high : Option Nat) (p : Place) :
    List Char → Lexeme String
  | [] => .broken (firstFlaw read ⟨.endInString, p⟩) ⟨.endInString, p⟩
  | '"' :: rest => .whole (read.map fun cs => String.ofList cs.reverse) ⟨rest, p.after '"'⟩
  | '\\' :: [] =>
    .broken (firstFlaw read ⟨.endInString, p.after '\\'⟩) ⟨.endInString, p.after '\\'⟩
  | '\\' :: 'u' :: a :: b :: c :: d :: rest =>
    let q := p.afterAll ['\\', 'u']
    match hexUnit? [a, b, c, d] with
    | none =>
      let e := hexFlaw ⟨a :: b :: c :: d :: rest, q⟩
      .broken (firstFlaw read e) e
    | some n =>
      let after := q.afterAll [a, b, c, d]
      let (read, high) := pushUnit read high n ⟨rest, after⟩
      scanString read high after rest
  | '\\' :: 'u' :: rest =>
    let e := hexFlaw ⟨rest, p.afterAll ['\\', 'u']⟩
    .broken (firstFlaw read e) e
  | '\\' :: c :: rest =>
    match simpleEscape? c with
    | some plain => scanString (pushChar read plain) none (p.afterAll ['\\', c]) rest
    | none =>
      let e : BadText := ⟨.invalidEscape, (p.after '\\').onNext (c :: rest)⟩
      .broken (firstFlaw read e) e
  | c :: rest =>
    if c.toNat < 0x20 then
      .broken (firstFlaw read ⟨.controlCharacter, p.onNext (c :: rest)⟩) ⟨.controlCharacter, p⟩
    else scanString (pushChar read c) none (p.after c) rest

def stringAt (s : Cursor) : Lexeme String := scanString (.ok []) none s.place s.rest

/-- Digits taken into a significand of 64 bits: its value, how many digits were taken, and the
digits left from the first that does not fit. -/
def takeSignificand (significand taken : Nat) : List Char → Nat × Nat × List Char
  | [] => (significand, taken, [])
  | d :: rest =>
    let next := significand * 10 + (d.toNat - 48)
    if next < Nat.pow 2 64 then takeSignificand next (taken + 1) rest
    else (significand, taken, d :: rest)

def powerOfTen (n : Nat) : Number.Binary64 :=
  (Number.Binary64.ofRatio? false (Nat.pow 10 n) 1).getD (.zero false)

/-- A significand scaled by a power of ten, rounding once for the significand and once for each
scaling step. Below 10 ^ -308 several steps are needed, and after three nothing is left. -/
def scale? : Nat → Number.Binary64 → Int → Option Number.Binary64
  | 0, f, _ => some f
  | fuel + 1, f, e =>
    if e.natAbs ≤ 308 then
      if 0 ≤ e then f.mul? (powerOfTen e.natAbs) else f.div? (powerOfTen e.natAbs)
    else if f.isZero then some f
    else if 0 ≤ e then none
    else (f.div? (powerOfTen 308)).bind fun g => scale? fuel g (e + 308)

def floatOfParts? (negative : Bool) (significand : Nat) (e : Int) : Option Number.Binary64 :=
  ((Number.Binary64.ofRatio? false significand 1).bind fun f => scale? 4 f e).map fun f =>
    if negative then f.negate else f

def floatAt (negative : Bool) (significand : Nat) (e : Int) (after : Cursor) : Lexeme Numeral :=
  match floatOfParts? negative significand e with
  | some f => .whole (.ok (.float f)) after
  | none => .whole (.error (after.flawHere .numberOutOfRange)) after

/-- The number of digits up to which an exponent stays within 32 bits, if it does not throughout. -/
def exponentOverflow? (value count : Nat) : List Char → Option Nat
  | [] => none
  | d :: rest =>
    let next := value * 10 + (d.toNat - 48)
    if Nat.pow 2 31 ≤ next then some (count + 1) else exponentOverflow? next (count + 1) rest

def exponentAt (negative : Bool) (significand : Nat) (e : Int) (s : Cursor) : Lexeme Numeral :=
  let (negativeExponent, digits) := match s.rest.drop 1 with
    | '-' :: _ => (true, s.drop 2)
    | '+' :: _ => (false, s.drop 2)
    | _ => (false, s.drop 1)
  let ds := digits.rest.takeWhile Char.isDigit
  let after := digits.drop ds.length
  match ds with
  | [] =>
    match digits.rest with
    | [] => .broken (digits.flawHere .endInValue) (digits.flawHere .invalidNumber)
    | _ => .flawed (digits.flawNext .invalidNumber)
  | _ =>
    match exponentOverflow? 0 0 ds with
    | some count =>
      if significand = 0 || negativeExponent then
        .whole (.ok (.float (.zero negative))) after
      else .whole (.error ((digits.drop count).flawHere .numberOutOfRange)) after
    | none =>
      let written : Int := Number.digitsValue ds
      floatAt negative significand (if negativeExponent then e - written else e + written) after

def isExponentMark (s : Cursor) : Bool := s.rest.head? = some 'e' || s.rest.head? = some 'E'

def fractionAt (negative : Bool) (significand : Nat) (e : Int) (s : Cursor) : Lexeme Numeral :=
  let digits := s.drop 1
  let ds := digits.rest.takeWhile Char.isDigit
  let after := digits.drop ds.length
  match ds with
  | [] =>
    match digits.rest with
    | [] => .broken (digits.flawHere .endInValue) (digits.flawHere .invalidNumber)
    | _ => .flawed (digits.flawNext .invalidNumber)
  | _ =>
    let (significand, taken, _) := takeSignificand significand 0 ds
    if isExponentMark after then exponentAt negative significand (e - taken) after
    else floatAt negative significand (e - taken) after

/-- A whole number: beyond 64 bits, and for minus zero, a float. -/
def wholeNumeral (negative : Bool) (n : Nat) : Numeral :=
  if !negative then .whole n
  else if 0 < n && n ≤ Nat.pow 2 63 then .whole (-n)
  else .float ((((Number.Binary64.ofRatio? false n 1).getD (.zero false))).negate)

def numberAt (negative : Bool) (s : Cursor) : Lexeme Numeral :=
  match s.rest with
  | [] => .broken (s.flawHere .endInValue) (s.flawHere .invalidNumber)
  | c :: rest =>
    if !c.isDigit then .flawed (s.flawNext .invalidNumber)
    else if c = '0' && (rest.head?.map Char.isDigit).getD false then
      .flawed ((s.drop 1).flawNext .invalidNumber)
    else
      let ds := s.rest.takeWhile Char.isDigit
      let after := s.drop ds.length
      let (significand, _, dropped) := takeSignificand 0 0 ds
      if after.rest.head? = some '.' then fractionAt negative significand dropped.length after
      else if isExponentMark after then exponentAt negative significand dropped.length after
      else if dropped.isEmpty then .whole (.ok (wholeNumeral negative significand)) after
      else floatAt negative significand dropped.length after

end ApiBindings.Json
