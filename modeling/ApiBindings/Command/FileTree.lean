import ApiBindings.Keyed
import ApiBindings.Text.Identifier

namespace ApiBindings.Command

inductive FileError where
  | notFound
  | notDirectory
  | isDirectory
  | other (reason : String)
  deriving DecidableEq, Repr

def FileError.message : FileError → String
  | .notFound => "No such file or directory (os error 2)"
  | .notDirectory => "Not a directory (os error 20)"
  | .isDirectory => "Is a directory (os error 21)"
  | .other reason => reason

/-- A place in the tree: names from the inside out, none for the root. -/
abbrev Place := List String

inductive Entry where
  | file (text : String)
  | directory
  deriving DecidableEq, Repr

structure FileTree where
  entries : List (Place × Entry) := []
  home : Place := []
  deriving DecidableEq, Repr

/-- The names in a path. A path that ends with a slash names what is inside a directory. -/
def pathNames (path : String) : List String :=
  let pieces := (Text.splitBy (· != '/') path.toList).map String.ofList
  pieces.filter (· != "") ++ (if pieces.getLast? = some "" then ["."] else [])

def isAbsolute (path : String) : Bool := path.toList.head? == some '/'

def joinPath (directory name : String) : String :=
  if directory.toList.getLast? = some '/' then directory ++ name else directory ++ "/" ++ name

namespace FileTree

def find? (t : FileTree) (place : Place) : Option Entry :=
  if place = [] then some .directory else t.entries.lookup place

def set (t : FileTree) (place : Place) (entry : Entry) : FileTree :=
  { t with entries := insertEntry t.entries place entry }

def start (t : FileTree) (path : String) : Place := if isAbsolute path then [] else t.home

def step (t : FileTree) (place : Place) (name : String) : Except FileError Place :=
  match t.find? place with
  | none => .error .notFound
  | some (.file _) => .error .notDirectory
  | some .directory =>
    .ok (if name = "." then place else if name = ".." then place.tail else name :: place)

/-- The place of a path; all but its last name must be directories. -/
def locate (t : FileTree) (path : String) : Except FileError Place :=
  (pathNames path).foldlM t.step (t.start path)

def read (t : FileTree) (path : String) : Except FileError String := do
  match t.find? (← t.locate path) with
  | none => .error .notFound
  | some .directory => .error .isDirectory
  | some (.file text) => .ok text

/-- Goes to a name in a directory and makes it a directory if nothing is there. -/
def enter (here : FileTree × Place) (name : String) : FileTree × Except FileError Place :=
  match here.1.step here.2 name with
  | .error e => (here.1, .error e)
  | .ok place =>
    match here.1.find? place with
    | some .directory => (here.1, .ok place)
    | some (.file _) => (here.1, .error .notDirectory)
    | none => (here.1.set place .directory, .ok place)

/-- Makes all directories on the way of some names. What has been made stays if one fails. -/
def enterAll (t : FileTree) (place : Place) : List String → FileTree × Except FileError Place
  | [] => (t, .ok place)
  | name :: rest =>
    match enter (t, place) name with
    | (t, .error e) => (t, .error e)
    | (t, .ok place) => enterAll t place rest

def write (t : FileTree) (directory name text : String) : FileTree × Except FileError Unit :=
  match t.enterAll (t.start directory) (pathNames directory) with
  | (t, .error e) => (t, .error e)
  | (t, .ok place) =>
    match t.find? (name :: place) with
    | some .directory => (t, .error .isDirectory)
    | _ => (t.set (name :: place) (.file text), .ok ())

def files (t : FileTree) : List (Place × String) :=
  t.entries.filterMap fun
    | (place, .file text) => some (place, text)
    | (_, .directory) => none

end FileTree

end ApiBindings.Command
