import ApiBindings.Model.Basic
import ApiBindings.Model.Resolving
import ApiBindings.Text.Words

namespace ApiBindings.Model
open Contract (Schema SchemaNode SchemaType)
open Resolving

def schemasSection : String := "/components/schemas/"

/-- The names that a list holds more than once, each when it is met the second time. -/
def repeatedNames (names : List String) : List String :=
  go [] names
where
  go (seen : List String) : List String → List String
    | [] => []
    | n :: rest => if seen.count n = 1 then n :: go (n :: seen) rest else go (n :: seen) rest

/-- Warnings for hoisted shapes of one name. All of them are kept. -/
def collisions (parent : String) (hoisted : List Shape) : List Warning :=
  (repeatedNames (hoisted.map Shape.name)).map fun name => ⟨parent, name⟩

def isStringLiteral : Json → Bool
  | .string _ => true
  | _ => false

def isNumberLiteral : Json → Bool
  | .number _ => true
  | _ => false

/-- What the literals of an enumeration are taken for: what the schema's type says or, without a
type, what all of them are. -/
def enumBase? (type : Option SchemaType) (items : List Json) : Option EnumBase :=
  match type with
  | some .string => some .string
  | some .integer | some .number => some .number
  | none =>
    if items.all isStringLiteral then some .string
    else if items.all isNumberLiteral then some .number
    else none
  | _ => none

def primitive? : Option SchemaType → Option Kind
  | some .integer | some .number => some .numeric
  | some .string => some .string
  | some .boolean => some .boolean
  | _ => none

def isObject (s : Schema) : Bool :=
  s.type = some .object || (s.type.isNone && s.properties.isSome)

def descriptionOf : SchemaNode → Option String
  | .inline s => s.description
  | .ref _ => none

def defaultOf : SchemaNode → Option Json
  | .inline s => s.default
  | .ref _ => none

/-- Makes a composition of its members, whose hoisted shapes move up to it. -/
def compose (make : List Shape → List Shape → Kind) (name : String) (members : List Shape) :
    Resolving Shape := do
  let hoisted := members.flatMap Shape.hoisted
  warn (collisions name hoisted)
  let kept := members.map fun m => { m with kind := m.kind.withoutHoisted }
  return { name, kind := make kept hoisted }

def Property.of (shape : Shape) (required : Bool) (description : Option String)
    (default : Option Json) : Property :=
  { shape := { shape with required }, description, required, repeated := shape.repeated, default }

def hoistedOf (properties : List (String × Property)) : List Shape :=
  (properties.map fun p => p.2.shape).filterMap fun s =>
    if s.isHoistable then some s.declaration else none

/-- A list of what the shape is; lists of lists are refused. -/
def listOf (name : String) (item : Shape) : Resolving Shape :=
  if item.repeated then fail (.nestedArray name)
  else pure { item with name, repeated := true }

/-- Resolves a node under a name. The budget is the number of levels left, the node's own among
them, and `limit` is how many may be below the top. -/
def resolveNode (limit : Nat) : Nat → String → SchemaNode → Resolving Shape
  | 0, name, _ => fail (.recursionLimit name limit)
  | _ + 1, name, .ref p =>
    if p.isIn schemasSection then pure { name, kind := .reference p.name }
    else fail (.unresolvedReference name ("#" ++ p.text))
  | budget + 1, name, .inline s =>
    match s.allOf, s.oneOf, s.enum with
    | some members, _, _ => do
      compose .intersection name (← each (resolveNode limit budget name) members)
    | none, some members, _ => do
      compose .union name (← each (resolveNode limit budget name) members)
    | none, none, some items =>
      match enumBase? s.type items with
      | some base => pure { name, kind := .enum base items }
      | none => fail (.unresolvableSchema name)
    | none, none, none =>
      if s.type = some .array then
        match s.items with
        | some item => do listOf name (← resolveNode limit budget name item)
        | none => fail (.unresolvableSchema name)
      else if isObject s then do
        let properties ← each (fun entry : String × SchemaNode => do
            let shape ← resolveNode limit budget (Text.pascalCase entry.1) entry.2
            return (entry.1, Property.of shape (s.required.contains entry.1)
              (descriptionOf entry.2) (defaultOf entry.2))) (s.properties.getD [])
        let hoisted := hoistedOf properties
        warn (collisions name hoisted)
        return { name, kind := .object properties hoisted }
      else
        match primitive? s.type with
        | some kind => pure { name, kind }
        | none => fail (.unresolvableSchema name)

def defaultLimit : Nat := 64

def resolveSchema (name : String) (node : SchemaNode) (limit : Nat) : Resolving Shape :=
  resolveNode limit (limit + 1) name node

end ApiBindings.Model
