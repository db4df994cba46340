import ApiBindings.Keyed
import ApiBindings.Decode.Fault
import ApiBindings.Tree

namespace ApiBindings.Decode

/-- Parts that are there, in order, and the fault that ends them early. -/
structure Run (α : Type) where
  parts : List α
  stop : Option Fault := none

/-- The two ways to write a record: keys with values, or the values in the order of the fields. A
list knows the fault of a reader that wants exactly so many values. -/
inductive RecordForm (ν : Type) where
  | named (entries : Run (Key × ν))
  | listed (items : Run ν) (beyond : Nat → Option Fault)

/-- A choice between named cases: the case, and whether the rest of the value is in order. -/
structure Choice where
  key : Key
  rest : Except Fault Unit

def keyStep : Key → Step
  | .text name => .key name
  | .position n => .key (toString n)
  | .other => .unnamed

class Node (ν : Type) where
  text (expected : String) : ν → Except Fault String
  bool : ν → Except Fault Bool
  /-- Does an optional place take the value for a missing one? -/
  isNull : ν → Except Fault Bool
  items : ν → Except Fault (Run ν)
  entries : ν → Except Fault (Run (String × ν))
  record (name : String) : ν → Except Fault (RecordForm ν)
  choice : ν → Except Fault Choice
  skip : ν → Except Fault Unit
  tree : ν → Except Fault Tree

abbrev Decoder (ν α : Type) := ν → Except Fault α

def checkRun {α : Type} (run : Run α) : Except Fault Unit :=
  match run.stop with
  | none => .ok ()
  | some fault => .error fault

def string {ν : Type} [Node ν] : Decoder ν String := Node.text "a string"

def optional {ν α : Type} [Node ν] (inner : Decoder ν α) : Decoder ν (Option α) := fun node => do
  if ← Node.isNull node then return none else return some (← inner node)

def decodeParts {ν α : Type} (inner : Decoder ν α) : Nat → List ν → Except Fault (List α)
  | _, [] => .ok []
  | n, node :: rest => do
    let value ← within (.index n) (inner node)
    let values ← decodeParts inner (n + 1) rest
    return value :: values

def list {ν α : Type} [Node ν] (inner : Decoder ν α) : Decoder ν (List α) := fun node => do
  let run ← Node.items node
  let values ← decodeParts inner 0 run.parts
  checkRun run
  return values

def decodeEntries {ν α : Type} (inner : Decoder ν α) :
    List (String × ν) → Except Fault (List (String × α))
  | [] => .ok []
  | (key, node) :: rest => do
    let value ← within (.key key) (inner node)
    let values ← decodeEntries inner rest
    return (key, value) :: values

/-- A map from texts: a repeated key keeps its first place and takes its last value. -/
def map {ν α : Type} [Node ν] (inner : Decoder ν α) : Decoder ν (List (String × α)) :=
  fun node => do
    let run ← Node.entries node
    let values ← decodeEntries inner run.parts
    checkRun run
    return uniqueEntries values

/-- One of several named cases; `other` is the case for any further name, if there is one. -/
def oneOf {ν α : Type} [Node ν] (cases : List (String × α)) (other : Option α) : Decoder ν α :=
  fun node => do
    let choice ← Node.choice node
    let found := match choice.key with
      | .text name => cases.lookup name
      | .position n => (cases[n]?).map Prod.snd
      | .other => none
    match found, other, choice.key with
    | some value, _, _ => choice.rest; return value
    | none, some value, .text _ => choice.rest; return value
    | none, some value, .position _ => choice.rest; return value
    | none, none, .text name => .error (.here (.unknownVariant name (cases.map Prod.fst)))
    | none, _, _ => .error (.here (.invalidType "key" "variant identifier"))

end ApiBindings.Decode
