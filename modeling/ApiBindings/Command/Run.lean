import ApiBindings.Command.Arguments
import ApiBindings.Command.FileTree
import ApiBindings.Command.Settings
import ApiBindings.Contract.Decode
import ApiBindings.Model.Api
import ApiBindings.TypeScript.Package

namespace ApiBindings.Command
open Contract (Document)
open Model (Api Warning)

/-- What a run needs from its surroundings. -/
class Host (m : Type → Type) where
  read : String → m (Except FileError String)
  write : String → String → String → m (Except FileError Unit)
  say : String → m Unit
  /-- Prints a line among the errors. -/
  complain : String → m Unit

inductive Exit where
  | success
  | failure
  /-- The arguments or the settings are wrong. -/
  | usage
  deriving DecidableEq, Repr

def Exit.code : Exit → UInt8
  | .success => 0
  | .failure => 1
  | .usage => 2

def versionText : String := "tsgen 0.1.0"

def aboutText : String := "An OpenAPI to TypeScript client generator"

def helpText : HelpTopic → String
  | .program => "\n".intercalate
    [aboutText, "", "Usage: tsgen [OPTIONS] <COMMAND>", "", "Commands:",
     "  codegen  Generate a TypeScript client from an OpenAPI document",
     "  help     Print this message or the help of the given subcommand(s)", "", "Options:",
     "  -v, --verbose  Enable verbose logging", "  -h, --help     Print help",
     "  -V, --version  Print version"]
  | .codegen => "\n".intercalate
    ["Generate a TypeScript client from an OpenAPI document", "",
     "Usage: tsgen codegen [OPTIONS] <INPUT> <OUTPUT>", "", "Arguments:",
     "  <INPUT>   The path to the OpenAPI document (`.yaml` or `.json`)",
     "  <OUTPUT>  The output directory for the generated files", "", "Options:",
     "      --no-client      Only generate schema declarations, without `client.ts`",
     "  -v, --verbose        Enable verbose logging",
     "      --max-depth <N>  How deeply schemas may nest before generation fails. Defaults to 64",
     "  -h, --help           Print help"]

def UsageError.message : UsageError → String
  | .unexpectedArgument argument => s!"error: unexpected argument '{argument}' found"
  | .unexpectedValue value option =>
    s!"error: unexpected value '{value}' for '{option}' found; no more were expected"
  | .missingValue option => s!"error: a value is required for '{option}' but none was supplied"
  | .repeatedOption option => s!"error: the argument '{option}' cannot be used multiple times"
  | .invalidCount value option reason =>
    s!"error: invalid value '{value}' for '{option}': {reason.message}"
  | .missingArguments => "error: the following required arguments were not provided:"
  | .unknownSubcommand name => s!"error: unrecognized subcommand '{name}'"
  | .missingSubcommand => "error: 'tsgen' requires a subcommand but one was not provided"
  | .nothingAsked => helpText .program

def settingsName : String := ".tsgen.toml"

structure Job where
  input : String
  output : String
  client : Bool
  maxDepth : Nat
  deriving DecidableEq, Repr

/-- Arguments win over settings. -/
def Job.of (options : Options) (settings : Settings) : Job where
  input := options.input
  output := options.output
  client := !options.noClient && settings.client.getD true
  maxDepth := (options.maxDepth.or settings.maxDepth).getD Model.defaultLimit

/-- The settings in what was read, or why there are none to use. A missing file has no settings. -/
def settingsOf (path : String) : Except FileError String → Except String Settings
  | .error .notFound => .ok {}
  | .error e => .error s!"error: Failed to read `{path}`: {e.message}"
  | .ok text =>
    match Settings.parse? text with
    | some settings => .ok settings
    | none => .error s!"error: Failed to parse `{path}`: TOML parse error"

def extension? (name : List Char) : Option (List Char) :=
  match name.reverse.dropWhile (· != '.') with
  | _ :: _ :: _ => some ((name.reverse.takeWhile (· != '.')).reverse)
  | _ => none

def isJsonPath (path : String) : Bool :=
  let name := (Text.splitBy (· != '/') path.toList).getLast?.getD []
  (extension? name).any fun ext => ext.map Char.toLower = "json".toList

def faultText (path : Decode.Path) (reason : Decode.Mismatch) : String :=
  Decode.Path.render path ++ ": " ++ reason.message

def readDocument (path source : String) : Except String Document :=
  if isJsonPath path then
    (Document.ofJsonText source).mapError fun
      | .unreadable e => e.message
      | .mismatch path reason => faultText path reason
  else
    (Document.ofYamlText source).mapError fun
      | .illFormed => "ill-formed text"
      | .fault path reason => faultText path reason

def warningText (w : Warning) : String :=
  s!"warning: multiple sub-schemas of `{w.parent}` hoist to the same name `{w.name}`"

section
variable {m : Type → Type} [Monad m] [Host m]

def fail (text : String) : m Exit := do
  Host.complain ("Error: " ++ text)
  return .failure

/-- Writes the files in order, up to the first that cannot be written. -/
def writeFiles (output : String) : List (String × String) → m Exit
  | [] => do
    Host.say "Generation complete"
    return .success
  | (name, text) :: rest => do
    Host.say s!"Writing `{name}`..."
    match ← Host.write output name text with
    | .ok () => writeFiles output rest
    | .error e => fail s!"Failed to write `{name}`: {e.message}"

def generate (job : Job) (doc : Document) : m Exit := do
  Host.say s!"OpenAPI: {doc.info.title} (version {doc.info.version})"
  match Api.resolve doc job.maxDepth with
  | .error e => fail s!"Failed to resolve OpenAPI document: {e.message}"
  | .ok (api, warnings) =>
    warnings.forM fun w => Host.complain (warningText w)
    Host.say (s!"Generating {api.schemas.length} schemas and "
      ++ s!"{api.operations.length} operations...")
    let files := TypeScript.files api job.client
    Host.say s!"Writing generated code to `{job.output}`..."
    writeFiles job.output files

def runJob (job : Job) : m Exit := do
  match ← Host.read job.input with
  | .error e => fail s!"Failed to read `{job.input}`: {e.message}"
  | .ok source =>
    match readDocument job.input source with
    | .error reason => fail s!"Failed to parse OpenAPI document: {reason}"
    | .ok doc => generate job doc

def runCodegen (options : Options) : m Exit := do
  let path := joinPath options.output settingsName
  match settingsOf path (← Host.read path) with
  | .error text =>
    Host.complain text
    return .usage
  | .ok settings => runJob (Job.of options settings)

def run (args : List String) : m Exit := do
  match Invocation.parse args with
  | .error e =>
    Host.complain e.message
    return .usage
  | .ok .version =>
    Host.say versionText
    return .success
  | .ok (.help topic) =>
    Host.say (helpText topic)
    return .success
  | .ok (.codegen options) => runCodegen options

end

structure Session where
  tree : FileTree
  output : String := ""
  errors : String := ""

instance : Host (StateM Session) where
  read path := do return (← get).tree.read path
  write directory name text := do
    let s ← get
    let (tree, result) := s.tree.write directory name text
    set { s with tree }
    return result
  say line := modify fun s => { s with output := s.output ++ line ++ "\n" }
  complain line := modify fun s => { s with errors := s.errors ++ line ++ "\n" }

def runOn (args : List String) (tree : FileTree) : Exit × Session :=
  (run args : StateM Session Exit).run { tree }

end ApiBindings.Command
