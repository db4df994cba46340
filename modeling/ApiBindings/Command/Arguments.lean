import ApiBindings.Text.Identifier

namespace ApiBindings.Command

inductive BadCount where
  | empty
  | invalidDigit
  | tooLarge
  deriving DecidableEq, Repr

def BadCount.message : BadCount → String
  | .empty => "cannot parse integer from empty string"
  | .invalidDigit => "invalid digit found in string"
  | .tooLarge => "number too large to fit in target type"

def countBound : Nat := Nat.pow 2 64

def readDigits (value : Nat) : List Char → Except BadCount Nat
  | [] => .ok value
  | c :: rest =>
    let next := value * 10 + (c.toNat - 48)
    if !c.isDigit then .error .invalidDigit
    else if next ≥ countBound then .error .tooLarge
    else readDigits next rest

/-- Reads a count, which may have a plus sign. -/
def readCount : List Char → Except BadCount Nat
  | [] => .error .empty
  | ['+'] => .error .invalidDigit
  | '+' :: digits => readDigits 0 digits
  | digits => readDigits 0 digits

inductive UsageError where
  | unexpectedArgument (argument : String)
  | unexpectedValue (value option : String)
  | missingValue (option : String)
  | repeatedOption (option : String)
  | invalidCount (value option : String) (reason : BadCount)
  | missingArguments
  | unknownSubcommand (name : String)
  | missingSubcommand
  | nothingAsked
  deriving DecidableEq, Repr

inductive HelpTopic where
  | program
  | codegen
  deriving DecidableEq, Repr

structure Options where
  input : String
  output : String
  noClient : Bool
  maxDepth : Option Nat
  verbose : Bool
  deriving DecidableEq, Repr

inductive Invocation where
  | codegen (options : Options)
  | version
  | help (topic : HelpTopic)
  deriving DecidableEq, Repr

def inputName : String := "<INPUT>"

def outputName : String := "<OUTPUT>"

def noClientName : String := "--no-client"

def verboseName : String := "--verbose"

def maxDepthName : String := "--max-depth <N>"

inductive Argument where
  /-- Two dashes, behind which there are no options. -/
  | escape
  | long (name : String) (value : Option String)
  | short (flags : List Char)
  | plain (text : String)
  deriving DecidableEq, Repr

def Argument.ofString (s : String) : Argument :=
  match s.toList with
  | ['-', '-'] => .escape
  | '-' :: '-' :: rest =>
    let name := String.ofList (rest.takeWhile (· != '='))
    match rest.dropWhile (· != '=') with
    | [] => .long name none
    | _ :: value => .long name (some (String.ofList value))
  | '-' :: c :: flags => .short (c :: flags)
  | _ => .plain s

/-- A value that has been met but not been looked at. -/
inductive Pending where
  | input (value : String)
  | output (value : String)
  | maxDepth (value : Option String)
  deriving DecidableEq, Repr

structure Draft where
  input : Option String := none
  output : Option String := none
  noClient : Bool := false
  maxDepth : Option Nat := none
  verbose : Bool := false
  pending : Option Pending := none

namespace Draft

def setMaxDepth (d : Draft) (value : String) : Except UsageError Draft :=
  if d.maxDepth.isSome then .error (.repeatedOption maxDepthName)
  else
    match readCount value.toList with
    | .ok n => .ok { d with maxDepth := some n }
    | .error reason => .error (.invalidCount value maxDepthName reason)

def settle (d : Draft) : Except UsageError Draft :=
  let settled := { d with pending := none }
  match d.pending with
  | none => .ok settled
  | some (.input value) =>
    if value.isEmpty then .error (.missingValue inputName)
    else .ok { settled with input := some value }
  | some (.output value) =>
    if value.isEmpty then .error (.missingValue outputName)
    else .ok { settled with output := some value }
  | some (.maxDepth none) => .error (.missingValue maxDepthName)
  | some (.maxDepth (some value)) => settled.setMaxDepth value

def setNoClient (d : Draft) : Except UsageError Draft := do
  let d ← d.settle
  if d.noClient then .error (.repeatedOption noClientName) else .ok { d with noClient := true }

def setVerbose (d : Draft) : Except UsageError Draft := do
  let d ← d.settle
  if d.verbose then .error (.repeatedOption verboseName) else .ok { d with verbose := true }

def hasInput (d : Draft) : Bool :=
  d.input.isSome || (match d.pending with | some (.input _) => true | _ => false)

def hasOutput (d : Draft) : Bool :=
  d.output.isSome || (match d.pending with | some (.output _) => true | _ => false)

/-- Takes a text for the next path. The value before it is settled first, unless there are too many
paths. -/
def addPath (d : Draft) (value : String) : Except UsageError Draft :=
  if !d.hasInput then do return { (← d.settle) with pending := some (.input value) }
  else if !d.hasOutput then do return { (← d.settle) with pending := some (.output value) }
  else .error (.unexpectedArgument value)

/-- A plain text is the value of an option that waits for one, or else a path. -/
def addPlain (d : Draft) (text : String) : Except UsageError Draft :=
  match d.pending with
  | some (.maxDepth none) => .ok { d with pending := some (.maxDepth (some text)) }
  | _ => d.addPath text

def finish (d : Draft) (verbose : Bool) : Except UsageError Invocation := do
  let d ← d.settle
  match d.input, d.output with
  | some input, some output =>
    .ok (.codegen { input, output, noClient := d.noClient, maxDepth := d.maxDepth
                    verbose := d.verbose || verbose })
  | _, _ => .error .missingArguments

end Draft

/-- Short flags of the subcommand. Nothing is left to do when one of them asks for help. -/
def readFlags (d : Draft) : List Char → Except UsageError (Option Draft)
  | [] => .ok (some d)
  | 'v' :: rest => do readFlags (← d.setVerbose) rest
  | 'h' :: _ => do
    let _ ← d.settle
    return none
  | c :: _ => .error (.unexpectedArgument (String.ofList ['-', c]))

def readLong (d : Draft) (name : String) (value : Option String) :
    Except UsageError (Option Draft) :=
  match name, value with
  | "no-client", none => do return some (← d.setNoClient)
  | "verbose", none => do return some (← d.setVerbose)
  | "help", none => do
    let _ ← d.settle
    return none
  | "max-depth", none => do return some { (← d.settle) with pending := some (.maxDepth none) }
  | "max-depth", some text => do return some (← (← d.settle).setMaxDepth text)
  | "no-client", some text => .error (.unexpectedValue text noClientName)
  | "verbose", some text => .error (.unexpectedValue text verboseName)
  | "help", some text => .error (.unexpectedValue text "--help")
  | _, _ => .error (.unexpectedArgument ("--" ++ name))

def readPaths (verbose : Bool) (d : Draft) : List String → Except UsageError Invocation
  | [] => d.finish verbose
  | arg :: rest => do readPaths verbose (← d.addPath arg) rest

def readCodegen (verbose : Bool) (d : Draft) : List String → Except UsageError Invocation
  | [] => d.finish verbose
  | arg :: rest => do
    match Argument.ofString arg with
    | .escape => readPaths verbose d rest
    | .plain text => readCodegen verbose (← d.addPlain text) rest
    | .long name value =>
      match ← readLong d name value with
      | some d => readCodegen verbose d rest
      | none => return .help .codegen
    | .short flags =>
      match ← readFlags d flags with
      | some d => readCodegen verbose d rest
      | none => return .help .codegen

def readHelp : List String → Except UsageError Invocation
  | [] => .ok (.help .program)
  | ["codegen"] => .ok (.help .codegen)
  | "codegen" :: name :: _ => .error (.unknownSubcommand name)
  | "help" :: _ => .ok (.help .program)
  | name :: _ => .error (.unknownSubcommand name)

def readProgramFlags (verbose : Bool) : List Char → Except UsageError (Bool ⊕ Invocation)
  | [] => .ok (.inl verbose)
  | 'v' :: rest =>
    if verbose then .error (.repeatedOption verboseName) else readProgramFlags true rest
  | 'V' :: _ => .ok (.inr .version)
  | 'h' :: _ => .ok (.inr (.help .program))
  | c :: _ => .error (.unexpectedArgument (String.ofList ['-', c]))

def readProgramLong (verbose : Bool) (name : String) (value : Option String) :
    Except UsageError (Bool ⊕ Invocation) :=
  match name, value with
  | "verbose", none =>
    if verbose then .error (.repeatedOption verboseName) else .ok (.inl true)
  | "version", none => .ok (.inr .version)
  | "help", none => .ok (.inr (.help .program))
  | "verbose", some text => .error (.unexpectedValue text verboseName)
  | "version", some text => .error (.unexpectedValue text "--version")
  | "help", some text => .error (.unexpectedValue text "--help")
  | _, _ => .error (.unexpectedArgument ("--" ++ name))

/-- Subcommands cannot follow the escape. -/
def afterEscape (verbose : Bool) : List String → Except UsageError Invocation
  | [] => .error (if verbose then .missingSubcommand else .nothingAsked)
  | arg :: _ =>
    if arg = "codegen" || arg = "help" then .error (.unexpectedArgument arg)
    else .error (.unknownSubcommand arg)

def readProgram (verbose : Bool) : List String → Except UsageError Invocation
  | [] => .error (if verbose then .missingSubcommand else .nothingAsked)
  | arg :: rest => do
    match Argument.ofString arg with
    | .plain "codegen" => readCodegen verbose {} rest
    | .plain "help" => readHelp rest
    | .plain text => .error (.unknownSubcommand text)
    | .escape => afterEscape verbose rest
    | .long name value =>
      match ← readProgramLong verbose name value with
      | .inl verbose => readProgram verbose rest
      | .inr answer => return answer
    | .short flags =>
      match ← readProgramFlags verbose flags with
      | .inl verbose => readProgram verbose rest
      | .inr answer => return answer

def Invocation.parse (args : List String) : Except UsageError Invocation := readProgram false args

end ApiBindings.Command
