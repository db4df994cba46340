import ApiBindings.Json.Lexeme
import ApiBindings.Tree

/-!
Drafts: JSON text read as far as it goes. A draft is a tree whose branches may break off, so what
stands before a flaw can be judged before the flaw is reported.
-/
namespace ApiBindings.Json

/-- Why a list or an object ends without its bracket. -/
inductive Gap where
  /-- The text ends where a comma or the bracket is due. -/
  | unclosed
  /-- Something else stands where a comma or the bracket is due. -/
  | unseparated
  | closedAfterComma
  | endsAfterComma
  deriving DecidableEq, Repr

/-- A value in JSON text. `start` is the place before it, and `depth` counts the lists and objects
around a value, itself included. A list or object whose last part breaks off has no gap of its
own. -/
inductive Draft where
  | null (start : Place)
  | bool (start : Place) (value : Bool)
  | number (start : Place) (value : Except BadText Numeral)
  | string (start : Place) (value : Except BadText String)
  | list (start : Place) (depth : Nat) (items : List Draft) (gap : Option (Gap × Place))
  /-- Each entry has its key, its value, and the place behind the value; `inside` is the place of a
  flaw in the first character after the brace. -/
  | object (start inside : Place) (depth : Nat)
      (entries : List (Except BadText String × Draft × Place)) (stop : Option (BadText × BadText))
  | broken (start : Place) (reading skipping : BadText)
  deriving Inhabited

namespace Draft

def start : Draft → Place
  | .null p | .bool p _ | .number p _ | .string p _ | .list p _ _ _ | .object p _ _ _ _
  | .broken p _ _ => p

def firstPlace (d : Draft) : Place := ⟨d.start.line, d.start.column + 1⟩

end Draft

/-- What a reader of a list reports at a gap. -/
def Gap.readingList : Gap → Flaw
  | .unclosed => .endInList
  | .unseparated => .expectedListCommaOrEnd
  | .closedAfterComma => .trailingComma
  | .endsAfterComma => .endInValue

def Gap.skippingList : Gap → Flaw
  | .unclosed => .endInList
  | .unseparated => .expectedListCommaOrEnd
  | .closedAfterComma => .expectedValue
  | .endsAfterComma => .endInValue

/-- What is reported at a gap by a reader that wants no further item. -/
def Gap.closingList : Gap → Flaw
  | .unclosed => .endInList
  | .unseparated => .trailingCharacters
  | .closedAfterComma => .trailingComma
  | .endsAfterComma => .trailingCharacters

def Gap.readingObject : Gap → Flaw
  | .unclosed => .endInObject
  | .unseparated => .expectedObjectCommaOrEnd
  | .closedAfterComma => .trailingComma
  | .endsAfterComma => .endInValue

def Gap.skippingObject : Gap → Flaw
  | .unclosed => .endInObject
  | .unseparated => .expectedObjectCommaOrEnd
  | .closedAfterComma => .keyMustBeString
  | .endsAfterComma => .endInObject

def Gap.inObject (g : Gap) (p : Place) : BadText × BadText :=
  (⟨g.readingObject, p⟩, ⟨g.skippingObject, p⟩)

inductive Separation where
  | closed (after : Cursor)
  | gap (kind : Gap) (place : Place)
  | item (at_ : Cursor)

/-- Looks past blanks and, unless the item is the first, a comma. -/
def separation (close : Char) (first : Bool) (s : Cursor) : Separation :=
  let s := s.skipBlanks
  match s.rest with
  | [] => .gap .unclosed s.place
  | c :: _ =>
    if c = close then .closed (s.drop 1)
    else if first then .item s
    else if c ≠ ',' then .gap .unseparated (s.place.onNext s.rest)
    else
      let t := (s.drop 1).skipBlanks
      match t.rest with
      | [] => .gap .endsAfterComma t.place
      | d :: _ =>
        if d = close then .gap .closedAfterComma (t.place.onNext t.rest) else .item t

def wordFlaw? (s : Cursor) : List Char → Option BadText
  | [] => none
  | c :: word =>
    match s.rest with
    | [] => some (s.flawHere .endInValue)
    | d :: _ => if c = d then wordFlaw? (s.drop 1) word else some (s.flawNext .expectedIdent)

abbrev Drafted := Draft × Option Cursor

def literal (s : Cursor) (word : List Char) (d : Draft) : Drafted :=
  match wordFlaw? (s.drop 1) word with
  | none => (d, some (s.drop (word.length + 1)))
  | some e => (.broken s.place e e, none)

def ofLexeme {α : Type} (p : Place) (make : Except BadText α → Draft) : Lexeme α → Drafted
  | .whole value after => (make value, some after)
  | .broken reading skipping => (.broken p reading skipping, none)

mutual

/-- The value at the front of a text. The fuel bounds brackets and commas together, and twice the
length of the text suffices. -/
def draftValue : Nat → Nat → Cursor → Drafted
  | 0, _, s => (.broken s.place (s.flawHere .endInValue) (s.flawHere .endInValue), none)
  | fuel + 1, depth, s =>
    let s := s.skipBlanks
    match s.rest with
    | [] => (.broken s.place (s.flawHere .endInValue) (s.flawHere .endInValue), none)
    | c :: _ =>
      if c = 'n' then literal s ['u', 'l', 'l'] (.null s.place)
      else if c = 't' then literal s ['r', 'u', 'e'] (.bool s.place true)
      else if c = 'f' then literal s ['a', 'l', 's', 'e'] (.bool s.place false)
      else if c = '-' then ofLexeme s.place (.number s.place) (numberAt true (s.drop 1))
      else if c.isDigit then ofLexeme s.place (.number s.place) (numberAt false s)
      else if c = '"' then ofLexeme s.place (.string s.place) (stringAt (s.drop 1))
      else if c = '[' then
        let (items, gap, after) := draftItems fuel (depth + 1) true (s.drop 1)
        (.list s.place (depth + 1) items gap, after)
      else if c = '\x7b' then
        let (entries, stop, after) := draftEntries fuel (depth + 1) true (s.drop 1)
        let inner := (s.drop 1).skipBlanks
        (.object s.place (inner.place.onNext inner.rest) (depth + 1) entries stop, after)
      else (.broken s.place (s.flawNext .expectedValue) (s.flawNext .expectedValue), none)

def draftItems : Nat → Nat → Bool → Cursor →
    List Draft × Option (Gap × Place) × Option Cursor
  | 0, _, _, s => ([], some (.unclosed, s.place), none)
  | fuel + 1, depth, first, s =>
    match separation ']' first s with
    | .closed after => ([], none, some after)
    | .gap kind place => ([], some (kind, place), none)
    | .item t =>
      match draftValue fuel depth t with
      | (d, none) => ([d], none, none)
      | (d, some after) =>
        let (items, gap, rest) := draftItems fuel depth false after
        (d :: items, gap, rest)

def draftEntries : Nat → Nat → Bool → Cursor →
    List (Except BadText String × Draft × Place) × Option (BadText × BadText) × Option Cursor
  | 0, _, _, s => ([], some (Gap.unclosed.inObject s.place), none)
  | fuel + 1, depth, first, s =>
    match separation '\x7d' first s with
    | .closed after => ([], none, some after)
    | .gap kind place => ([], some (kind.inObject place), none)
    | .item t =>
      if t.rest.head? ≠ some '"' then
        ([], some (t.flawNext .keyMustBeString, t.flawNext .keyMustBeString), none)
      else
        match stringAt (t.drop 1) with
        | .broken reading skipping => ([], some (reading, skipping), none)
        | .whole key afterKey =>
          let u := afterKey.skipBlanks
          match u.rest with
          | [] =>
            let e := u.flawHere .endInObject
            ([(key, .broken u.place e e, u.place)], none, none)
          | c :: _ =>
            if c ≠ ':' then
              let e := u.flawNext .expectedColon
              ([(key, .broken u.place e e, u.place)], none, none)
            else
              match draftValue fuel depth (u.drop 1) with
              | (d, none) => ([(key, d, u.place)], none, none)
              | (d, some after) =>
                let (entries, stop, rest) := draftEntries fuel depth false after
                ((key, d, after.skipBlanks.place) :: entries, stop, rest)

end

def draftOf (text : String) : Drafted :=
  let s := Cursor.start text
  draftValue (2 * s.rest.length + 2) 0 s

def depthLimit : Nat := 127

def tooDeepAt (start : Place) : BadText := ⟨.tooDeep, ⟨start.line, start.column + 1⟩⟩

def checkStop : Option BadText → Except BadText Unit
  | none => .ok ()
  | some e => .error e

mutual

def Draft.tree : Draft → Except BadText Tree
  | .null _ => .ok .null
  | .bool _ b => .ok (.bool b)
  | .number _ value => value.map .number
  | .string _ value => value.map .text
  | .broken _ reading _ => .error reading
  | .list start depth items gap =>
    if depthLimit < depth then .error (tooDeepAt start)
    else do
      let trees ← itemsTrees items
      checkStop (gap.map fun g => ⟨g.1.readingList, g.2⟩)
      return .list trees
  | .object start _ depth entries stop =>
    if depthLimit < depth then .error (tooDeepAt start)
    else do
      let trees ← entriesTrees entries
      checkStop (stop.map Prod.fst)
      return .map trees

def itemsTrees : List Draft → Except BadText (List Tree)
  | [] => .ok []
  | d :: rest => do
    let t ← d.tree
    let ts ← itemsTrees rest
    return t :: ts

def entriesTrees : List (Except BadText String × Draft × Place) →
    Except BadText (List (Key × Tree))
  | [] => .ok []
  | (key, d, _) :: rest => do
    let k ← key
    let t ← d.tree
    let ts ← entriesTrees rest
    return (.text k, t) :: ts

end

mutual

def Draft.skip : Draft → Except BadText Unit
  | .broken _ _ skipping => .error skipping
  | .list _ _ items gap => do
    skipItems items
    checkStop (gap.map fun g => ⟨g.1.skippingList, g.2⟩)
  | .object _ _ _ entries stop => do
    skipEntries entries
    checkStop (stop.map Prod.snd)
  | _ => .ok ()

def skipItems : List Draft → Except BadText Unit
  | [] => .ok ()
  | d :: rest => do
    d.skip
    skipItems rest

def skipEntries : List (Except BadText String × Draft × Place) → Except BadText Unit
  | [] => .ok ()
  | (_, d, _) :: rest => do
    d.skip
    skipEntries rest

end

/-- Reads a text as one JSON value with nothing but blanks behind it. -/
def parse (text : String) : Except BadText Json := do
  let (draft, after) := draftOf text
  let tree ← draft.tree
  match after with
  | none => .error ⟨.endInValue, .start⟩
  | some s =>
    let s := s.skipBlanks
    if s.rest.isEmpty then .ok ((tree.toJson?).getD .null)
    else .error (s.flawNext .trailingCharacters)

end ApiBindings.Json
