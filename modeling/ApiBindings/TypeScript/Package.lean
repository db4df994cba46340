import ApiBindings.TypeScript.Client
import ApiBindings.TypeScript.Printer

namespace ApiBindings.TypeScript
open Model (Api)

def indexModule (client : Bool) : Module :=
  (if client then [.exportAll clientSource] else []) ++ [.exportAll schemasSource]

/-- The generated files with their contents, in the order in which they are written. -/
def files (api : Api) (client : Bool) : List (String × String) :=
  [("schemas.ts", (schemasModule api.schemas).text)]
    ++ (if client then [("client.ts", (clientModule api.operations).text)] else [])
    ++ [("index.ts", (indexModule client).text), ("version", api.version ++ "\n")]

def declarationTexts (api : Api) : List (String × String) :=
  api.schemas.map fun s => (s.name, (schemasModule [s]).text)

end ApiBindings.TypeScript
