import ApiBindings.TypeScript.Name
import ApiBindings.TypeScript.Schemas

namespace ApiBindings.TypeScript
open Model (Shape Operation Api)
open Contract (Fragment Segment)

def schemasSource : String := "./schemas"

def clientSource : String := "./client"

def usedNames (op : Operation) : List String :=
  let responseNames := match op.response with
    | some response =>
      if response.isHoistable then [response.name]
      else response.walk.filterMap fun s => s.kind.target?
    | none => []
  op.request :: responseNames

/-- All names that the functions use, in the order of their first use. -/
def importedNames (operations : List Operation) : List String :=
  distinctBy id (operations.flatMap usedNames)

/-- Characters of literal path text that are written percent-encoded: those with a meaning in URLs
or in template literals, and all beyond ASCII. -/
def isEncodedInPath (c : Char) : Bool :=
  c.toNat < 0x20 || 0x7f ≤ c.toNat || " \"#%/<>?\\`\x7b\x7d".toList.contains c

def fragmentPart : Fragment → TemplatePart
  | .literal text => .text (String.ofList (Text.Percent.encode isEncodedInPath text.toList))
  | .param name => .hole (.call "encodeURIComponent" (.property "req" name))

def segmentParts (segment : Segment) : List TemplatePart :=
  .text "/" :: segment.map fragmentPart

/-- The path of a request: the template itself if it has no parameters. -/
def pathExpr (op : Operation) : Expr :=
  if op.template.params.isEmpty then .string op.path
  else .template (op.template.flatMap segmentParts)

def responseType (op : Operation) : TypeExpr :=
  match op.response with
  | some response =>
    if response.isHoistable then arrayIf response.repeated (.ofName response.name)
    else useType response
  | none => .keyword .void

def requestEntries (op : Operation) : List (String × Expr) :=
  let query := if op.queryParams.isEmpty then []
    else [("query", Expr.object (op.queryParams.map fun name => (name, .property "req" name)))]
  let body := if op.hasBody then [("body", Expr.property "req" "body")] else []
  [("method", .string op.method.name), ("path", pathExpr op)] ++ query ++ body

def operationFunction (op : Operation) : Exported where
  comment := op.summary
  declaration := .function (functionName op.id)
    [("requester", .ofName "Requester"), ("req", .ofName op.request)]
    (.generic "Promise" [responseType op])
    (.call "requester" (.object (requestEntries op)))

def requestInterface : Exported where
  declaration := .interface "ApiRequest"
    [{ key := "method", type := .keyword .string },
     { key := "path", type := .keyword .string },
     { key := "query", optional := true
       type := .generic "Record" [.keyword .string, .keyword .unknown] },
     { key := "body", optional := true, type := .keyword .unknown }]

def requesterAlias : Exported where
  comment := some "Sends a request, and resolves to the decoded response body."
  declaration := .alias "Requester"
    (.function [("request", .ofName "ApiRequest")] (.generic "Promise" [.keyword .any]))

def clientModule (operations : List Operation) : Module :=
  let names := importedNames operations
  let imports := if names.isEmpty then [] else [Item.importTypes names schemasSource]
  imports ++ (requestInterface :: requesterAlias :: operations.map operationFunction).map .declared

end ApiBindings.TypeScript
