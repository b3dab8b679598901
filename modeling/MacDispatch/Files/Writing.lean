import MacDispatch.Files.Tree

/-! # Writing files

A file is written at a path together with the directories that lead to it. What stands in the
way is told by its usual number. -/

namespace MacDispatch

inductive WriteFault
  | noSuchFile
  | fileExists
  | notDirectory
  | isDirectory
  /-- A name or the whole path has too many bytes. -/
  | tooLong
  | zeroByte
deriving DecidableEq, Repr

namespace WriteFault

def message : WriteFault → String
  | noSuchFile => "No such file or directory (os error 2)"
  | fileExists => "File exists (os error 17)"
  | notDirectory => "Not a directory (os error 20)"
  | isDirectory => "Is a directory (os error 21)"
  | tooLong => "File name too long (os error 36)"
  | zeroByte => "file name contained an unexpected NUL byte"

end WriteFault

namespace FilePath

def nameLimit : Nat := 255

def pathLimit : Nat := 4095

/-- The part of a path, as it is written, that leads to the directory of its last name. -/
def directoryText (text : String) : String :=
  let leadsNowhere (step : String) : Bool := step == "" || step == "."
  let steps := (text.splitOn "/").reverse.dropWhile leadsNowhere
  "/".intercalate ((steps.drop 1).dropWhile leadsNowhere).reverse

/-- Refuses a path, as it is written, that the system would not even follow. -/
def checkText (text : String) : Except WriteFault Unit :=
  if text.contains '\x00' then .error .zeroByte
  else if text.utf8ByteSize > pathLimit then .error .tooLong
  else .ok ()

def checkName (name : String) : Except WriteFault Unit :=
  if name.utf8ByteSize > nameLimit then .error .tooLong else .ok ()

end FilePath

namespace FileTree

/-- The tree with all the directories to which steps lead one after the other. -/
def withDirectories (tree : FileTree) (names : List String) :
    List String → Except WriteFault (FileTree × List String)
  | [] => .ok (tree, names)
  | next :: rest => do
    FilePath.checkName next
    let there := step names next
    if (tree.file? there).isSome then
      .error (if rest.isEmpty then .fileExists else .notDirectory)
    else
      withDirectories { tree with directories := there :: tree.directories } there rest

def put (tree : FileTree) (names : List String) (text : String) : FileTree :=
  { tree with files := (names, text) :: tree.files.filter fun (file, _) => file != names }

def putNamed (tree : FileTree) (directory : List String) (name : String) (ending : PathEnding)
    (text : String) : Except WriteFault FileTree :=
  let there := step directory name
  match ending with
  | .slash => .error .isDirectory
  | .point => do
    FilePath.checkName name
    if tree.isDirectory there then .error .isDirectory
    else if (tree.file? there).isSome then .error .notDirectory
    else .error .noSuchFile
  | .plain => do
    FilePath.checkName name
    if tree.isDirectory there then .error .isDirectory else .ok (tree.put there text)

/-- The tree with a text at a path, as it is written, and with the directories that lead there. -/
def write (tree : FileTree) (place : String) (text : String) : Except WriteFault FileTree := do
  let path := FilePath.ofText place
  FilePath.checkText (FilePath.directoryText place)
  let (tree, directory) ← tree.withDirectories (tree.start path) path.steps.dropLast
  FilePath.checkText place
  match path.steps.getLast? with
  | some name => tree.putNamed directory name path.ending text
  | none => .error (if path.isEmpty then .noSuchFile else .isDirectory)

end FileTree

end MacDispatch
