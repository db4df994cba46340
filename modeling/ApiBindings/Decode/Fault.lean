import ApiBindings.Contract.Pointer
import ApiBindings.Json.Flaw

namespace ApiBindings.Decode

inductive Step where
  | key (name : String)
  | index (n : Nat)
  | unnamed
  deriving DecidableEq, Repr

abbrev Path := List Step

def Step.render : Step → String
  | .key name => name
  | .index n => s!"[{n}]"
  | .unnamed => "?"

/-- Keys are joined by dots; an index follows its list directly. -/
def Path.render : Path → String
  | [] => "."
  | first :: rest => rest.foldl join first.render
where
  join (text : String) : Step → String
    | .index n => text ++ (Step.index n).render
    | step => text ++ "." ++ step.render

/-- What is wrong with a value. Found values and expectations are in words. -/
inductive Mismatch where
  | invalidType (found expected : String)
  | invalidValue (found expected : String)
  | invalidLength (length : Nat) (expected : String)
  | missingField (name : String)
  | duplicateField (name : String)
  | unknownVariant (name : String) (options : List String)
  | badPointer (reason : Contract.BadPointer)
  | noVariant
  /-- A value with a tag of its own where any plain value would do. -/
  | taggedValue
  | tooDeep
  | tooManyAliases
  deriving DecidableEq, Repr

def Mismatch.message : Mismatch → String
  | .invalidType found expected => s!"invalid type: {found}, expected {expected}"
  | .invalidValue found expected => s!"invalid value: {found}, expected {expected}"
  | .invalidLength length expected => s!"invalid length {length}, expected {expected}"
  | .missingField name => s!"missing field `{name}`"
  | .duplicateField name => s!"duplicate field `{name}`"
  | .unknownVariant name options =>
    let listed := ", ".intercalate (options.map fun o => s!"`{o}`")
    s!"unknown variant `{name}`, expected one of {listed}"
  | .badPointer reason => reason.message
  | .noVariant => "data did not match any variant of untagged enum RefOr"
  | .taggedValue => "untagged and internally tagged enums do not support enum input"
  | .tooDeep => "recursion limit exceeded"
  | .tooManyAliases => "repetition limit exceeded"

inductive Fault where
  | unreadable (reason : Json.BadText)
  | mismatch (path : Path) (reason : Mismatch)
  deriving DecidableEq, Repr

def Fault.here (reason : Mismatch) : Fault := .mismatch [] reason

/-- The fault as seen from the value that holds the faulty one. -/
def Fault.within (step : Step) : Fault → Fault
  | .unreadable reason => .unreadable reason
  | .mismatch path reason => .mismatch (step :: path) reason

def within {α : Type} (step : Step) (result : Except Fault α) : Except Fault α :=
  result.mapError (Fault.within step)

end ApiBindings.Decode
