import ApiBindings.Decode.TreeNode
import ApiBindings.Json.Draft

/-!
Drafts of JSON text as nodes. Scalars are read before their type is judged, so a flaw inside one is
reported first; lists and objects are judged by their opening bracket.
-/
namespace ApiBindings.Decode
open Json

def readable {α : Type} (result : Except BadText α) : Except Fault α :=
  result.mapError .unreadable

def wrongDraft {α : Type} (expected : String) : Draft → Except Fault α
  | .null _ => wrongTree .null expected
  | .bool _ b => wrongTree (.bool b) expected
  | .number _ value => do wrongTree (.number (← readable value)) expected
  | .string _ value => do wrongTree (.text (← readable value)) expected
  | .list .. => wrongTree (.list []) expected
  | .object .. => wrongTree (.map []) expected
  | .broken _ reading _ => .error (.unreadable reading)

def checkDepth (start : Place) (depth : Nat) : Except Fault Unit :=
  if depthLimit < depth then .error (.unreadable (tooDeepAt start)) else .ok ()

def readableEntries (stop : Option Fault) :
    List (Except BadText String × Draft × Place) → Run (String × Draft)
  | [] => { parts := [], stop }
  | (.ok key, d, _) :: rest =>
    let run := readableEntries stop rest
    { run with parts := (key, d) :: run.parts }
  | (.error e, _, _) :: _ => { parts := [], stop := some (.unreadable e) }

def objectRun (entries : List (Except BadText String × Draft × Place))
    (stop : Option (BadText × BadText)) : Run (String × Draft) :=
  readableEntries (stop.map fun s => .unreadable s.1) entries

/-- The fault of a list from which exactly `wanted` items are taken. -/
def listBeyond (items : List Draft) (gap : Option (Gap × Place)) (wanted : Nat) : Option Fault :=
  match items[wanted]? with
  | some d => some (.unreadable ⟨.trailingCharacters, d.firstPlace⟩)
  | none => gap.map fun g => .unreadable ⟨g.1.closingList, g.2⟩

/-- The flaw of a text that breaks off where a choice is due: only strings and objects are looked
into. -/
def choiceFlaw (d : Draft) (reading : BadText) : BadText :=
  match reading.flaw with
  | .expectedIdent | .invalidNumber | .expectedValue => ⟨.expectedValue, d.firstPlace⟩
  | .endInValue =>
    if reading.place = d.start then reading else ⟨.expectedValue, d.firstPlace⟩
  | _ => reading

def unitDraft : Draft → Except Fault Unit
  | .null _ => .ok ()
  | d => wrongDraft "unit" d

def checkSingle (after : Place) (more : Bool) (stop : Option (BadText × BadText)) :
    Except Fault Unit :=
  if more then .error (.unreadable ⟨.expectedValue, after⟩)
  else
    match stop with
    | none => .ok ()
    | some (⟨.endInObject, place⟩, _) => .error (.unreadable ⟨.endInObject, place⟩)
    | some _ => .error (.unreadable ⟨.expectedValue, after⟩)

def objectChoice (inside : Place) (stop : Option (BadText × BadText)) :
    List (Except BadText String × Draft × Place) → Except Fault Choice
  | [] =>
    match stop with
    | some (⟨.endInObject, place⟩, _) => .error (.unreadable ⟨.endInValue, place⟩)
    | some (⟨.keyMustBeString, place⟩, _) => .error (.unreadable ⟨.expectedValue, place⟩)
    | some (reading, _) => .error (.unreadable reading)
    | none => .error (.unreadable ⟨.expectedValue, inside⟩)
  | (key, d, after) :: more => do
    let name ← readable key
    return { key := .text name, rest := do
      within (.key name) (unitDraft d)
      checkSingle after (!more.isEmpty) stop }

instance : Node Draft where
  text expected
    | .string _ value => readable value
    | d => wrongDraft expected d
  bool
    | .bool _ b => .ok b
    | d => wrongDraft "a boolean" d
  isNull
    | .null _ => .ok true
    | _ => .ok false
  items
    | .list start depth items gap => do
      checkDepth start depth
      return { parts := items, stop := gap.map fun g => .unreadable ⟨g.1.readingList, g.2⟩ }
    | d => wrongDraft "a sequence" d
  entries
    | .object start _ depth entries stop => do
      checkDepth start depth
      return objectRun entries stop
    | d => wrongDraft "a map" d
  record name
    | .object start _ depth entries stop => do
      checkDepth start depth
      let run := objectRun entries stop
      return .named { parts := run.parts.map fun e => (.text e.1, e.2), stop := run.stop }
    | .list start depth items gap => do
      checkDepth start depth
      return .listed
        { parts := items, stop := gap.map fun g => .unreadable ⟨g.1.readingList, g.2⟩ }
        (listBeyond items gap)
    | d => wrongDraft s!"struct {name}" d
  choice d :=
    match d with
    | .string _ value => do return { key := .text (← readable value), rest := .ok () }
    | .object start inside depth entries stop => do
      checkDepth start depth
      objectChoice inside stop entries
    | .broken _ reading _ => .error (.unreadable (choiceFlaw d reading))
    | d => .error (.unreadable ⟨.expectedValue, d.firstPlace⟩)
  skip d := readable d.skip
  tree d := readable d.tree

end ApiBindings.Decode
