import ApiBindings.Decode.Node

namespace ApiBindings.Decode

inductive Absence where
  | fault
  /-- The field has no value; a record written as a list must still reach it. -/
  | null
  | standard
  deriving DecidableEq, Repr

/-- A field of the record type `α`: how its value is read and put into a record. -/
structure Field (ν α : Type) where
  name : String
  absence : Absence
  read : ν → Except Fault (α → α)

def Field.of {ν α β : Type} (name : String) (absence : Absence) (inner : Decoder ν β)
    (store : β → α → α) : Field ν α :=
  { name, absence, read := fun node => (inner node).map store }

def findField? {ν α : Type} (fields : List (Field ν α)) : Key → Option (Field ν α)
  | .text name => fields.find? fun f => f.name = name
  | .position n => fields[n]?
  | .other => none

/-- Reads named values into a record. Unknown names are passed over, and repeated ones refused. -/
def readNamed {ν α : Type} [Node ν] (fields : List (Field ν α)) :
    List (Key × ν) → List String → α → Except Fault (List String × α)
  | [], seen, value => .ok (seen, value)
  | (key, node) :: rest, seen, value =>
    match findField? fields key with
    | none => do
      within (keyStep key) (Node.skip node)
      readNamed fields rest seen value
    | some field =>
      if seen.contains field.name then .error (.here (.duplicateField field.name))
      else do
        let put ← within (keyStep key) (field.read node)
        readNamed fields rest (field.name :: seen) (put value)

def readListed {ν α : Type} : List (Field ν α) → Nat → List ν → α → Except Fault α
  | field :: fields, n, node :: rest, value => do
    let put ← within (.index n) (field.read node)
    readListed fields (n + 1) rest (put value)
  | _, _, _, value => .ok value

/-- The first field from place `n` on that a list may not leave out, by its place. -/
def firstUnlisted? {ν α : Type} : List (Field ν α) → Nat → Option Nat
  | [], _ => none
  | field :: fields, n =>
    if field.absence = .standard then firstUnlisted? fields (n + 1) else some n

def elements (n : Nat) : String := if n = 1 then "1 element" else s!"{n} elements"

def record {ν α : Type} [Node ν] (name : String) (fields : List (Field ν α)) (blank : α) :
    Decoder ν α := fun node => do
  match ← Node.record name node with
  | .named run =>
    let (seen, value) ← readNamed fields run.parts [] blank
    checkRun run
    match fields.find? fun f => f.absence = .fault && !seen.contains f.name with
    | some field => .error (.here (.missingField field.name))
    | none => return value
  | .listed run beyond =>
    let value ← readListed fields 0 run.parts blank
    if run.parts.length < fields.length then
      checkRun run
      match firstUnlisted? (fields.drop run.parts.length) run.parts.length with
      | some n => .error (.here (.invalidLength n s!"struct {name} with {elements fields.length}"))
      | none => return value
    else
      match beyond fields.length with
      | some fault => .error fault
      | none => return value

end ApiBindings.Decode
