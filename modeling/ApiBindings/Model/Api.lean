import ApiBindings.Keyed
import ApiBindings.Model.Schema

namespace ApiBindings.Model
open Contract (Document Components PathItem RefOr Parameter RequestBody Response MediaType
  SchemaNode Method PathTemplate Location)
open Resolving

def parametersSection : String := "/components/parameters/"

def requestBodiesSection : String := "/components/requestBodies/"

def responsesSection : String := "/components/responses/"

def jsonMedia : String := "application/json"

def bodyProperty : String := "body"

/-- The definition at a place: the inline one, or the entry that a reference into the right section
names. -/
def lookup {α : Type} (sectionText : String) (entries : List (String × α))
    (missing : String → ResolveError) : RefOr α → Resolving α
  | .inline value => pure value
  | .ref p =>
    if p.isIn sectionText then require (missing ("#" ++ p.text)) (entries.lookup p.name)
    else fail (missing ("#" ++ p.text))

def jsonSchema? (content : List (String × MediaType)) : Option SchemaNode :=
  (content.lookup jsonMedia).bind MediaType.schema

/-- The declarations of a component. A list of objects or literals is split into the declaration of
its items and the list of them, which keeps the component's name. -/
def componentBlock (s : Shape) : List Shape :=
  let split := match s.kind with
    | .object .. | .enum .. => s.repeated
    | _ => false
  if split then
    let item := s.name ++ "Item"
    [{ s.declaration with name := item },
     { name := s.name, repeated := true, kind := .reference item }]
  else [s]

/-- The codes that a method conventionally succeeds with; some methods are not supported. -/
def conventionalStatuses? : Method → Option (List String)
  | .get => some ["200"]
  | .post => some ["200", "201", "204"]
  | .put | .patch => some ["200", "204"]
  | .delete => some ["200", "202", "204"]
  | .head | .options | .trace => none

/-- The response of an operation: its first one with a conventional code. -/
def resolveResponse (components : Components) (limit : Nat) (id : String) (method : Method)
    (responses : List (String × RefOr Response)) : Resolving (Option Shape) := do
  let codes ← require (.unsupportedMethod id method) (conventionalStatuses? method)
  let (code, response) ← require (.noConventionalResponse id codes)
    (responses.find? fun r => codes.contains r.1)
  if code = "204" then return none
  else
    let response ←
      lookup responsesSection components.responses .unresolvedResponse response
    let schema ← require (.noJsonContent id "response") (jsonSchema? response.content)
    let shape ← resolveSchema (Text.pascalCase (id ++ "_response")) schema limit
    return some shape

/-- The parameters of an operation, those of its path first. Of several with one name and location
the last counts, at the place of the first. -/
def mergedParameters (parameters : List Parameter) : List Parameter :=
  (uniqueEntries (parameters.map fun p => ((p.name, p.location), p))).map Prod.snd

def addInput (id : String) (inputs : List (String × Property)) (name : String)
    (property : Property) : Resolving (List (String × Property)) :=
  if (inputs.lookup name).isSome then fail (.conflictingInput id name)
  else pure (inputs ++ [(name, property)])

/-- Must the request give the parameter? Parameters of the path always are in the URL, and headers
and cookies are no inputs. -/
def inputRequired? (p : Parameter) : Option Bool :=
  match p.location with
  | .path => some true
  | .query => some p.required
  | .header | .cookie => none

def parameterInputs (limit : Nat) (id request : String) :
    List Parameter → List (String × Property) → Resolving (List (String × Property))
  | [], inputs => pure inputs
  | p :: rest, inputs =>
    match inputRequired? p with
    | none => parameterInputs limit id request rest inputs
    | some required => do
      let schema ← require (.unresolvableSchema (request ++ "." ++ p.name)) p.schema
      let shape ← resolveSchema (Text.pascalCase p.name) schema limit
      let property := Property.of shape required p.description (defaultOf schema)
      parameterInputs limit id request rest (← addInput id inputs p.name property)

def bodyInput (components : Components) (limit : Nat) (id : String)
    (body : RefOr RequestBody) (inputs : List (String × Property)) :
    Resolving (List (String × Property)) := do
  let body ← lookup requestBodiesSection components.requestBodies .unresolvedRequestBody body
  let schema ← require (.noJsonContent id "request body") (jsonSchema? body.content)
  let shape ← resolveSchema "Body" schema limit
  addInput id inputs bodyProperty (Property.of shape body.required body.description none)

def namesAt (location : Location) (parameters : List Parameter) : List String :=
  (parameters.filter fun p => p.location = location).map Parameter.name

def nonempty? (s : Option String) : Option String := s.bind fun t => if t.isEmpty then none else t

def resolvePath (id path : String) : Resolving PathTemplate :=
  match PathTemplate.parse path with
  | .ok template => pure template
  | .error e => fail (.badOperationPath id e)

/-- Resolves an operation to its declarations, a response that needs one and then the envelope, and
itself. -/
def resolveOperation (components : Components) (limit : Nat) (path : String) (item : PathItem)
    (method : Method) (op : Contract.Operation) : Resolving (List Shape × Operation) := do
  let id ← require (.missingOperationId method path) (nonempty? op.operationId)
  let response ← resolveResponse components limit id method op.responses
  let template ← resolvePath id path
  let request := Text.pascalCase (id ++ "_request")
  let parameters ← each (lookup parametersSection components.parameters .unresolvedParameter)
    (item.parameters ++ op.parameters)
  let parameters := mergedParameters parameters
  let inputs ← parameterInputs limit id request parameters []
  let inputs ← match op.requestBody with
    | some body => bodyInput components limit id body inputs
    | none => pure inputs
  let envelope : Shape := { name := request, kind := .object inputs (hoistedOf inputs) }
  let declared := (response.toList.filter Shape.isHoistable).map Shape.declaration
  return (declared ++ [envelope],
    { path, template, id, summary := op.summary, method, request, response
      pathParams := namesAt .path parameters, queryParams := namesAt .query parameters
      hasBody := op.requestBody.isSome })

def operationsOf (paths : List (String × PathItem)) :
    List (String × PathItem × Method × Contract.Operation) :=
  paths.flatMap fun (path, item) => item.operations.map fun (method, op) => (path, item, method, op)

def dangling? (declared : List String) (root : Shape) : Option String :=
  (root.walk.filterMap fun s => s.kind.target?).find? fun name => !declared.contains name

def checkReferences (declared : List String) : List Shape → Resolving Unit
  | [] => pure ()
  | root :: rest =>
    match dangling? declared root with
    | some name => fail (.unresolvedReference root.name name)
    | none => checkReferences declared rest

/-- Resolves a contract, schemas having at most `limit` levels. References must name a declaration
that comes from the components. -/
def Api.resolve (doc : Document) (limit : Nat) : Resolving Api := do
  let components := doc.components.getD {}
  let shapes ← each (fun entry : String × SchemaNode => resolveSchema entry.1 entry.2 limit)
    components.schemas
  let declared := shapes.flatMap componentBlock
  let resolved ← each
    (fun (path, item, method, op) => resolveOperation components limit path item method op)
    (operationsOf doc.paths)
  let schemas := declared ++ resolved.flatMap Prod.fst
  let operations := resolved.map Prod.snd
  checkReferences (declared.map Shape.name) (schemas ++ operations.filterMap Operation.response)
  return { title := doc.info.title, version := doc.info.version, schemas, operations }

end ApiBindings.Model
