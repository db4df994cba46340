import ApiBindings.Command.Run

namespace ApiBindings.Command

/-- Is it the given error number? Some of the calls report it negated. -/
def isErrorNumber (code number : UInt32) : Bool := code == number || code == 0 - number

def FileError.ofSystem : IO.Error → FileError
  | .noFileOrDirectory .. => .notFound
  | e@(.inappropriateType _ code _) =>
    if isErrorNumber code 20 then .notDirectory
    else if isErrorNumber code 21 then .isDirectory
    else .other (toString e)
  | e => .other (toString e)

instance : Host IO where
  read path := do
    match ← (IO.FS.readFile path).toBaseIO with
    | .ok text => return .ok text
    | .error e => return .error (.ofSystem e)
  write directory name text := do
    match ← (do IO.FS.createDirAll directory; IO.FS.writeFile (joinPath directory name) text
        : IO Unit).toBaseIO with
    | .ok () => return .ok ()
    | .error e => return .error (.ofSystem e)
  say := IO.println
  complain := IO.eprintln

end ApiBindings.Command

def main (args : List String) : IO UInt32 := do
  let exit ← ApiBindings.Command.run (m := IO) args
  return exit.code.toUInt32
