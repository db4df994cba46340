import ApiBindings.Contract.Basic
import ApiBindings.Contract.PathTemplate

/-!
The resolved form of a contract. Every schema has become a shape with a name, and the shapes that
need a declaration of their own are hoisted into the shape around them.
-/
namespace ApiBindings.Model

inductive EnumBase where
  | string
  | number
  deriving DecidableEq, Repr

mutual

/-- A resolved schema. The members of an intersection or a union share its name. -/
structure Shape where
  name : String
  repeated : Bool := false
  required : Bool := false
  kind : Kind

inductive Kind where
  | reference (target : String)
  | intersection (members : List Shape) (hoisted : List Shape)
  | union (members : List Shape) (hoisted : List Shape)
  /-- Literals in the order written, repetitions included. -/
  | enum (base : EnumBase) (items : List Json)
  | object (properties : List (String × Property)) (hoisted : List Shape)
  | numeric
  | string
  | boolean

structure Property where
  shape : Shape
  description : Option String
  required : Bool
  repeated : Bool
  default : Option Json

end

namespace Kind

def hoisted : Kind → List Shape
  | .intersection _ hoisted | .union _ hoisted | .object _ hoisted => hoisted
  | _ => []

def withoutHoisted : Kind → Kind
  | .intersection members _ => .intersection members []
  | .union members _ => .union members []
  | .object properties _ => .object properties []
  | kind => kind

def target? : Kind → Option String
  | .reference target => some target
  | _ => none

end Kind

namespace Shape

/-- The shapes that are declared inside the namespace of this one. -/
def hoisted (s : Shape) : List Shape := s.kind.hoisted

/-- Does the shape need a declaration of its own where it is a property? -/
def isHoistable (s : Shape) : Bool :=
  match s.kind with
  | .object .. | .enum .. => true
  | .intersection _ hoisted | .union _ hoisted => !hoisted.isEmpty
  | _ => false

/-- The shape as a declaration: being a list and being required belong to its use. -/
def declaration (s : Shape) : Shape := { s with repeated := false, required := false }

end Shape

mutual

def Shape.walk : Shape → List Shape
  | ⟨name, repeated, required, kind⟩ => ⟨name, repeated, required, kind⟩ :: Kind.walk kind

def Kind.walk : Kind → List Shape
  | .intersection members hoisted => walkShapes members ++ walkShapes hoisted
  | .union members hoisted => walkShapes members ++ walkShapes hoisted
  | .object properties hoisted => walkProperties properties ++ walkShapes hoisted
  | _ => []

def walkShapes : List Shape → List Shape
  | [] => []
  | s :: rest => Shape.walk s ++ walkShapes rest

def walkProperties : List (String × Property) → List Shape
  | [] => []
  | (_, ⟨s, _, _, _, _⟩) :: rest => Shape.walk s ++ walkProperties rest

end

structure Operation where
  path : String
  template : Contract.PathTemplate
  id : String
  summary : Option String
  method : Contract.Method
  /-- The name of the shape that holds all inputs. -/
  request : String
  /-- Nothing if the operation answers without content. -/
  response : Option Shape
  pathParams : List String
  queryParams : List String
  hasBody : Bool

structure Api where
  title : String
  version : String
  /-- The top-level declarations: those of the components, then those of each operation. -/
  schemas : List Shape
  operations : List Operation

end ApiBindings.Model
