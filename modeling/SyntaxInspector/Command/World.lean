import SyntaxInspector.Text.Split

/-!
# What commands can see

A command reads standard input and files, and its output is a text on each of two channels with an
exit code.

* `World` — what can be read;
* `World.ofFiles` — a directory given as a list of files;
* `Outcome` — what comes out.
-/

namespace SyntaxInspector

/-- Why a file cannot be read. -/
inductive ReadError where
  /-- There is no such file. -/
  | notFound
  /-- A file stands where a directory should. -/
  | notDirectory
  /-- It is a directory. -/
  | isDirectory
  /-- A part of its name, or the whole name, is too long. -/
  | nameTooLong
  /-- Any other reason. -/
  | other (message : String)
  deriving DecidableEq

/-- The error in words. -/
def ReadError.message : ReadError → String
  | .notFound => "No such file or directory (os error 2)"
  | .notDirectory => "Not a directory (os error 20)"
  | .isDirectory => "Is a directory (os error 21)"
  | .nameTooLong => "File name too long (os error 36)"
  | .other message => message

/-- What commands can read. -/
structure World where
  /-- Standard input. -/
  stdin : Except ReadError String
  /-- The text of a file. -/
  read : String → Except ReadError String
  /-- Whether the output is a terminal. -/
  terminal : Bool := false

/-- What a command comes to. -/
structure Outcome where
  /-- The exit code. -/
  exit : Nat
  /-- Standard output. -/
  stdout : String := ""
  /-- Standard error. -/
  stderr : String := ""
  deriving DecidableEq, Inhabited

/-! ### Paths -/

/-- The components of a path, without empty ones and those that name the same directory. -/
def pathComponents (path : String) : List String :=
  (splitText (· = '/') path).filter fun c => !c.isEmpty && c != "."

/-- The extension of a path's last component: what follows its last dot, unless the dot is the
component's first character. -/
def pathExtension? (path : String) : Option String := do
  let name ← (pathComponents path).getLast?
  if name == ".." then none
  else
    let (after, before) := name.toList.reverse.span (· ≠ '.')
    if before.length ≤ 1 then none else return String.ofList after.reverse

/-- Where a walk along a path has come to. -/
inductive Place where
  /-- A directory, by its path from the working directory. -/
  | directory (path : List String)
  /-- A directory that is not below the working directory. -/
  | outside
  /-- A file with its text. -/
  | file (text : String)

namespace World

/-- The most bytes of one component of a path. -/
def componentLimit : Nat := 255

/-- The most bytes of a path. -/
def pathLimit : Nat := 4095

/-- What stands at a path from the working directory, in which there are some files. -/
def placeAt (files : List (List String × String)) (path : List String) : Except ReadError Place :=
  match files.lookup path with
  | some text => .ok (.file text)
  | none => if files.any (path.isPrefixOf ·.1) then .ok (.directory path) else .error .notFound

/-- One component further. Only directories can be walked through; of those outside nothing is known
but that they are there. -/
def walk (files : List (List String × String)) (place : Place) (component : String) :
    Except ReadError Place :=
  match place with
  | .file _ => .error .notDirectory
  | .directory path =>
    if component.isEmpty || component == "." then .ok place
    else if component == ".." then .ok (if path.isEmpty then .outside else .directory path.dropLast)
    else if componentLimit < component.utf8ByteSize then .error .nameTooLong
    else placeAt files (path ++ [component])
  | .outside =>
    if component.isEmpty || component == "." || component == ".." then .ok .outside
    else if componentLimit < component.utf8ByteSize then .error .nameTooLong
    else .error .notFound

/-- No path leads through a file. -/
@[simp] theorem walk_file (files : List (List String × String)) (text component : String) :
    walk files (.file text) component = .error .notDirectory := rfl

/-- Reads a path in a working directory given as a list of files. -/
def readFrom (files : List (String × String)) (path : String) : Except ReadError String := do
  let known := files.map fun (name, text) => (pathComponents name, text)
  if pathLimit < path.utf8ByteSize then .error .nameTooLong
  else
    let start := if path.startsWith "/" then Place.outside else .directory []
    match ← (splitText (· = '/') path).foldlM (walk known) start with
    | .file text => .ok text
    | _ => .error .isDirectory

/-- A directory given as a list of files. -/
def ofFiles (stdin : String) (files : List (String × String)) : World :=
  { stdin := .ok stdin, read := readFrom files }

end World

end SyntaxInspector
