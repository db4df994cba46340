import ApiBindings.Contract.Basic
import ApiBindings.Contract.PathTemplate

namespace ApiBindings.Model
open Contract (Method BadPath)

inductive ResolveError where
  | missingOperationId (method : Method) (path : String)
  | unresolvableSchema (name : String)
  | nestedArray (name : String)
  | unresolvedParameter (reference : String)
  | unresolvedRequestBody (reference : String)
  | unresolvedResponse (reference : String)
  | unresolvedReference (referrer typeName : String)
  | noConventionalResponse (operation : String) (codes : List String)
  | unsupportedMethod (operation : String) (method : Method)
  | conflictingInput (operation name : String)
  | noJsonContent (operation location : String)
  | recursionLimit (name : String) (limit : Nat)
  | badOperationPath (operation : String) (reason : BadPath)
  deriving DecidableEq, Repr

namespace ResolveError

def message : ResolveError → String
  | .missingOperationId method path =>
    s!"operation `{method.name} {path}` is missing `operationId`"
  | .unresolvableSchema name => s!"couldn't resolve schema `{name}`"
  | .nestedArray name => s!"schema `{name}` is an array of arrays, which can't be represented"
  | .unresolvedParameter reference =>
    s!"parameter `{reference}` isn't defined in `components.parameters`"
  | .unresolvedRequestBody reference =>
    s!"request body `{reference}` isn't defined in `components.requestBodies`"
  | .unresolvedResponse reference =>
    s!"response `{reference}` isn't defined in `components.responses`"
  | .unresolvedReference referrer typeName =>
    s!"schema `{referrer}` references `{typeName}`, which isn't defined in `components.schemas`"
  | .noConventionalResponse operation codes =>
    let listed := ", ".intercalate codes
    s!"operation `{operation}` should include one of {listed} responses"
  | .unsupportedMethod operation method =>
    s!"operation `{operation}` uses unsupported method `{method.name}`"
  | .conflictingInput operation name =>
    s!"operation `{operation}` has more than one input named `{name}`"
  | .noJsonContent operation location =>
    s!"{location} of operation `{operation}` has no `application/json` schema"
  | .recursionLimit name limit => s!"schema `{name}` is nested more than {limit} levels deep"
  | .badOperationPath operation _ => s!"operation `{operation}` has an invalid path"

def code : ResolveError → String
  | .missingOperationId .. => "tsgen::ir::missing_operation_id"
  | .unresolvableSchema _ => "tsgen::ir::unresolvable_schema"
  | .nestedArray _ => "tsgen::ir::nested_array"
  | .unresolvedParameter _ => "tsgen::ir::unresolved_parameter"
  | .unresolvedRequestBody _ => "tsgen::ir::unresolved_request_body"
  | .unresolvedResponse _ => "tsgen::ir::unresolved_response"
  | .unresolvedReference .. => "tsgen::ir::unresolved_reference"
  | .noConventionalResponse .. => "tsgen::ir::no_conventional_response"
  | .unsupportedMethod .. => "tsgen::ir::unsupported_verb"
  | .conflictingInput .. => "tsgen::ir::conflicting_input"
  | .noJsonContent .. => "tsgen::ir::no_json_content"
  | .recursionLimit .. => "tsgen::ir::recursion_limit"
  | .badOperationPath .. => "tsgen::ir::bad_path"

def help? : ResolveError → Option String
  | .unresolvableSchema _ =>
    some "schemas need `$ref`, `allOf`, `oneOf`, `enum`, or a supported `type`"
  | .conflictingInput .. =>
    some "path and query parameters, and the request body, share one request object"
  | _ => none

end ResolveError

/-- Several shapes hoisted into `parent` have the same name. -/
structure Warning where
  parent : String
  name : String
  deriving DecidableEq, Repr

/-- A result with the warnings met on the way to it, or the first error. An error stands alone: the
warnings met before it are not kept, and only a contract that resolves is warned about. -/
def Resolving (α : Type) : Type := Except ResolveError (α × List Warning)

namespace Resolving

def fail {α : Type} (e : ResolveError) : Resolving α := .error e

def warn (warnings : List Warning) : Resolving Unit := .ok ((), warnings)

instance : Monad Resolving where
  pure a := .ok (a, [])
  bind m f :=
    match m with
    | .error e => .error e
    | .ok (a, earlier) =>
      match f a with
      | .error e => .error e
      | .ok (b, later) => .ok (b, earlier ++ later)

def require {α : Type} (e : ResolveError) : Option α → Resolving α
  | some a => pure a
  | none => fail e

def each {α β : Type} (f : α → Resolving β) : List α → Resolving (List β)
  | [] => pure []
  | a :: rest => do
    let b ← f a
    let bs ← each f rest
    return b :: bs

end Resolving

end ApiBindings.Model
