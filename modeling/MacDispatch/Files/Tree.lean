/-! # File trees

The files that a program sees, and the paths by which it names them. A path is followed step by
step: a name goes into a directory, and `..` goes back up. -/

namespace MacDispatch

/-- What a path says about its last step beyond the name. -/
inductive PathEnding
  /-- Nothing: it may be a file. -/
  | plain
  /-- A slash: it can only be a directory. -/
  | slash
  /-- A point: it has to be a directory that is there. -/
  | point
deriving DecidableEq, Repr

/-- A path as it is written, without the steps that lead nowhere. -/
structure FilePath where
  absolute : Bool
  steps : List String
  ending : PathEnding
deriving DecidableEq, Repr

namespace FilePath

/-- The path that a text describes. Empty steps and `.` lead nowhere and are dropped. -/
def ofText (text : String) : FilePath :=
  let parts := (text.toList.splitOn '/').map String.ofList
  let closed := parts.reverse.dropWhile (· == "")
  { absolute := text.toList.head? == some '/'
    steps := parts.filter fun step => step != "" && step != "."
    ending :=
      if closed.head? == some "." then .point
      else if closed.length < parts.length && text != "" then .slash
      else .plain }

/-- The path in plain form. -/
def text (path : FilePath) : String :=
  (if path.absolute then "/" else "") ++ "/".intercalate path.steps

def isEmpty (path : FilePath) : Bool :=
  !path.absolute && path.steps.isEmpty && path.ending == .plain

/-- A name up to its last point, and what stands behind that point. A point at the front of a
name is part of it. -/
private def parts (name : String) : String × Option String :=
  let reversed := name.toList.reverse
  let ending := reversed.takeWhile (· != '.')
  if ending.length + 1 < reversed.length then
    (String.ofList (reversed.drop (ending.length + 1)).reverse, some (String.ofList ending.reverse))
  else (name, none)

/-- The last name, unless the path ends by going up. -/
def name? (path : FilePath) : Option String := path.steps.getLast?.filter (· != "..")

/-- What stands behind the last point of the last name. -/
def extension? (path : FilePath) : Option String := do (parts (← path.name?)).2

/-- The path with the given extension of its last name in place of the one it has. -/
def withExtension? (path : FilePath) (extension : String) : Option FilePath := do
  let (stem, _) := parts (← path.name?)
  return { path with
    steps := path.steps.dropLast ++ [stem ++ "." ++ extension], ending := .plain }

end FilePath

/-- The files that are there, each under the names that lead to it from the root, directories
that are there whether or not a file is in them, and the directory where relative paths begin. -/
structure FileTree where
  files : List (List String × String)
  directories : List (List String) := []
  here : List String := []

namespace FileTree

def ofTexts (here : List String) (texts : List (String × String)) : FileTree where
  files := texts.map fun (path, text) => (here ++ (FilePath.ofText path).steps, text)
  here := here

def file? (tree : FileTree) (names : List String) : Option String := tree.files.lookup names

def isDirectory (tree : FileTree) (names : List String) : Bool :=
  names.isPrefixOf tree.here || tree.directories.any (names.isPrefixOf ·) ||
    tree.files.any fun (file, _) => names.isPrefixOf file && names.length < file.length

/-- The names that one step leads to. Above the root there is only the root. -/
def step (names : List String) (step : String) : List String :=
  if step == ".." then names.dropLast else names ++ [step]

/-- Where relative or absolute steps begin. -/
def start (tree : FileTree) (path : FilePath) : List String :=
  if path.absolute then [] else tree.here

/-- Follows steps; all but the last have to lead to directories. -/
def follow? (tree : FileTree) : List String → List String → Option (List String)
  | names, [] => some names
  | names, next :: rest =>
    if tree.isDirectory names then follow? tree (step names next) rest else none

def read? (tree : FileTree) (path : FilePath) : Option String :=
  if path.ending == .plain then do tree.file? (← tree.follow? (tree.start path) path.steps)
  else none

end FileTree

end MacDispatch
