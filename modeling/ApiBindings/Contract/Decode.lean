import ApiBindings.Contract.Basic
import ApiBindings.Decode.DraftNode
import ApiBindings.Decode.Record
import ApiBindings.Decode.YamlNode

namespace ApiBindings.Contract
open Decode

def pointer : Decoder Tree Pointer := fun tree => do
  match Pointer.parse (← Node.text "a component reference" tree) with
  | .ok p => return p
  | .error e => .error (.here (.badPointer e))

def reference : Decoder Tree Pointer :=
  record "Ref" [.of "$ref" .fault pointer fun p _ => p] ⟨""⟩

/-- A whole tree as a reference or, failing that, as a definition. -/
def refOrTree {α : Type} (inner : Decoder Tree α) : Decoder Tree (RefOr α) := fun tree =>
  match reference tree with
  | .ok p => .ok (.ref p)
  | .error _ =>
    match inner tree with
    | .ok value => .ok (.inline value)
    | .error _ => .error (.here .noVariant)

def refOr {ν α : Type} [Node ν] (inner : Decoder Tree α) : Decoder ν (RefOr α) := fun node => do
  refOrTree inner (← Node.tree node)

def literal : Decoder Tree Json := fun tree =>
  match tree.toJson? with
  | some j => .ok j
  | none => .error (.here (.invalidType "key" "a string"))

def schemaType : Decoder Tree SchemaType :=
  oneOf [("string", .string), ("integer", .integer), ("number", .number), ("boolean", .boolean),
    ("array", .array), ("object", .object), ("null", .null)] (some .other)

def schemaFields (inner : Decoder Tree SchemaNode) : List (Field Tree Schema) :=
  [.of "type" .standard (optional schemaType) fun v s => { s with type := v },
   .of "description" .standard (optional string) fun v s => { s with description := v },
   .of "default" .standard (optional literal) fun v s => { s with default := v },
   .of "properties" .standard (optional (map inner)) fun v s => { s with properties := v },
   .of "required" .standard (list string) fun v s => { s with required := v },
   .of "items" .standard (optional inner) fun v s => { s with items := v },
   .of "enum" .standard (optional (list literal)) fun v s => { s with enum := v },
   .of "allOf" .standard (optional (list inner)) fun v s => { s with allOf := v },
   .of "oneOf" .standard (optional (list inner)) fun v s => { s with oneOf := v }]

def schemaTree : Nat → Decoder Tree SchemaNode
  | 0 => fun _ => .error (.here .noVariant)
  | height + 1 => refOrTree (record "Schema" (schemaFields (schemaTree height)) {})

def schemaNode {ν : Type} [Node ν] : Decoder ν SchemaNode := fun node => do
  let tree ← Node.tree node
  schemaTree (tree.height + 1) tree

section

variable {ν : Type} [Node ν]

def location : Decoder ν Location :=
  oneOf [("path", .path), ("query", .query), ("header", .header), ("cookie", .cookie)] none

def parameter : Decoder ν Parameter :=
  record "Parameter"
    [.of "name" .fault string fun v p => { p with name := v },
     .of "in" .fault location fun v p => { p with location := v },
     .of "required" .standard Node.bool fun v p => { p with required := v },
     .of "description" .standard (optional string) fun v p => { p with description := v },
     .of "schema" .standard (optional schemaNode) fun v p => { p with schema := v }] {}

def mediaType : Decoder ν MediaType :=
  record "MediaType"
    [.of "schema" .standard (optional schemaNode) fun v m => { m with schema := v }] {}

def requestBody : Decoder ν RequestBody :=
  record "RequestBody"
    [.of "description" .standard (optional string) fun v b => { b with description := v },
     .of "required" .standard Node.bool fun v b => { b with required := v },
     .of "content" .standard (map mediaType) fun v b => { b with content := v }] {}

def response : Decoder ν Response :=
  record "Response"
    [.of "description" .standard (optional string) fun v r => { r with description := v },
     .of "content" .standard (map mediaType) fun v r => { r with content := v }] {}

def operation : Decoder ν Operation :=
  record "Operation"
    [.of "summary" .standard (optional string) fun v o => { o with summary := v },
     .of "description" .standard (optional string) fun v o => { o with description := v },
     .of "operationId" .null (optional string) fun v o => { o with operationId := v },
     .of "parameters" .standard (list (refOr parameter)) fun v o => { o with parameters := v },
     .of "requestBody" .standard (optional (refOr requestBody))
       fun v o => { o with requestBody := v },
     .of "responses" .standard (map (refOr response)) fun v o => { o with responses := v }] {}

def pathItem : Decoder ν PathItem :=
  record "PathItem"
    [.of "summary" .standard (optional string) fun v i => { i with summary := v },
     .of "description" .standard (optional string) fun v i => { i with description := v },
     .of "parameters" .standard (list (refOr parameter)) fun v i => { i with parameters := v },
     .of "get" .standard (optional operation) fun v i => { i with get := v },
     .of "post" .standard (optional operation) fun v i => { i with post := v },
     .of "put" .standard (optional operation) fun v i => { i with put := v },
     .of "delete" .standard (optional operation) fun v i => { i with delete := v },
     .of "patch" .standard (optional operation) fun v i => { i with patch := v },
     .of "head" .standard (optional operation) fun v i => { i with head := v },
     .of "options" .standard (optional operation) fun v i => { i with options := v },
     .of "trace" .standard (optional operation) fun v i => { i with trace := v }] {}

def info : Decoder ν Info :=
  record "Info"
    [.of "title" .fault string fun v i => { i with title := v },
     .of "description" .standard (optional string) fun v i => { i with description := v },
     .of "version" .fault string fun v i => { i with version := v }] {}

def components : Decoder ν Components :=
  record "Components"
    [.of "schemas" .standard (map schemaNode) fun v c => { c with schemas := v },
     .of "responses" .standard (map response) fun v c => { c with responses := v },
     .of "parameters" .standard (map parameter) fun v c => { c with parameters := v },
     .of "requestBodies" .standard (map requestBody) fun v c => { c with requestBodies := v }] {}

def document : Decoder ν Document :=
  record "Document"
    [.of "openapi" .fault string fun v d => { d with openapi := v },
     .of "info" .fault info fun v d => { d with info := v },
     .of "paths" .standard (map pathItem) fun v d => { d with paths := v },
     .of "components" .standard (optional components) fun v d => { d with components := v }] {}

end

/-- Decodes the first value of a JSON text; what follows it is not looked at. -/
def ofJsonText {α : Type} (inner : Decoder Json.Draft α) (text : String) : Except Fault α :=
  inner (Json.draftOf text).1

def Document.ofJsonText (text : String) : Except Fault Document :=
  Contract.ofJsonText document text

/-- Why YAML text gives no value: it is not exactly one document, or the document is faulty. -/
inductive YamlFault where
  | illFormed
  | fault (path : Path) (reason : Mismatch)
  deriving Repr

def ofYamlText {α : Type} (inner : Decoder YamlSpot α) (text : String) : Except YamlFault α :=
  match Yaml.Document.parse? text with
  | none => .error .illFormed
  | some d =>
    match inner (.root d) with
    | .ok value => .ok value
    | .error (.mismatch path reason) => .error (.fault path reason)
    | .error (.unreadable _) => .error .illFormed

def Document.ofYamlText (text : String) : Except YamlFault Document :=
  Contract.ofYamlText document text

def Document.ofJson (value : Json) : Except Fault Document := document (Tree.ofJson value)

end ApiBindings.Contract
