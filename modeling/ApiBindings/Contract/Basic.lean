import ApiBindings.Contract.Pointer
import ApiBindings.Json.Basic

namespace ApiBindings.Contract

inductive RefOr (α : Type) where
  | ref (pointer : Pointer)
  | inline (value : α)
  deriving Repr

inductive SchemaType where
  | string
  | integer
  | number
  | boolean
  | array
  | object
  | null
  | other
  deriving DecidableEq, Repr

structure Schema where
  type : Option SchemaType := none
  description : Option String := none
  default : Option Json := none
  properties : Option (List (String × RefOr Schema)) := none
  required : List String := []
  items : Option (RefOr Schema) := none
  enum : Option (List Json) := none
  allOf : Option (List (RefOr Schema)) := none
  oneOf : Option (List (RefOr Schema)) := none

abbrev SchemaNode := RefOr Schema

inductive Location where
  | path
  | query
  | header
  | cookie
  deriving DecidableEq, Repr

structure Parameter where
  name : String := ""
  location : Location := .path
  required : Bool := false
  description : Option String := none
  schema : Option SchemaNode := none

structure MediaType where
  schema : Option SchemaNode := none

structure RequestBody where
  description : Option String := none
  required : Bool := false
  content : List (String × MediaType) := []

structure Response where
  description : Option String := none
  content : List (String × MediaType) := []

structure Operation where
  summary : Option String := none
  description : Option String := none
  operationId : Option String := none
  parameters : List (RefOr Parameter) := []
  requestBody : Option (RefOr RequestBody) := none
  responses : List (String × RefOr Response) := []

inductive Method where
  | get
  | post
  | put
  | delete
  | patch
  | head
  | options
  | trace
  deriving DecidableEq, Repr

def Method.name : Method → String
  | .get => "get"
  | .post => "post"
  | .put => "put"
  | .delete => "delete"
  | .patch => "patch"
  | .head => "head"
  | .options => "options"
  | .trace => "trace"

def Method.all : List Method := [.get, .post, .put, .delete, .patch, .head, .options, .trace]

structure PathItem where
  summary : Option String := none
  description : Option String := none
  /-- Parameters of every operation on the path. -/
  parameters : List (RefOr Parameter) := []
  get : Option Operation := none
  post : Option Operation := none
  put : Option Operation := none
  delete : Option Operation := none
  patch : Option Operation := none
  head : Option Operation := none
  options : Option Operation := none
  trace : Option Operation := none

def PathItem.operation? (item : PathItem) : Method → Option Operation
  | .get => item.get
  | .post => item.post
  | .put => item.put
  | .delete => item.delete
  | .patch => item.patch
  | .head => item.head
  | .options => item.options
  | .trace => item.trace

/-- The operations of a path, in the fixed order of the methods. -/
def PathItem.operations (item : PathItem) : List (Method × Operation) :=
  Method.all.filterMap fun m => (item.operation? m).map (m, ·)

structure Info where
  title : String := ""
  description : Option String := none
  version : String := ""

structure Components where
  schemas : List (String × SchemaNode) := []
  responses : List (String × Response) := []
  parameters : List (String × Parameter) := []
  requestBodies : List (String × RequestBody) := []

structure Document where
  openapi : String := ""
  info : Info := {}
  paths : List (String × PathItem) := []
  components : Option Components := none

end ApiBindings.Contract
