import MacDispatch.Cli.Call
import MacDispatch.Log.Line

/-! # The program

Looks at the files that a call may need, decides what happens, and lets it happen. -/

namespace MacDispatch.Program

open Cli

/-- The optional features of this build. -/
def compiled : FeatureSet := .all

def environment : IO (List (String × String)) := do
  let bytes ← IO.FS.readBinFile "/proc/self/environ"
  let entries := ((String.fromUTF8? bytes).getD "").splitOn "\x00"
  return entries.filterMap fun entry =>
    match entry.splitOn "=" with
    | name :: value@(_ :: _) => some (name, "=".intercalate value)
    | _ => none

/-- Looks at what stands under some names and adds it to a tree. -/
def look (tree : FileTree) (names : List String) : IO FileTree := do
  let place := "/" ++ "/".intercalate names
  try
    return { tree with files := (names, ← IO.FS.readFile place) :: tree.files }
  catch _ =>
    try
      let _ ← IO.FS.realPath (place ++ "/.")
      return { tree with directories := names :: tree.directories }
    catch _ => return tree

/-- Looks at a path and at every step on the way. -/
def survey (tree : FileTree) (path : FilePath) : IO FileTree := do
  let (tree, _) ← path.steps.foldlM
    (fun (tree, names) step => do
      let there := FileTree.step names step
      return (← look tree there, there))
    (tree, tree.start path)
  return tree

def write (path : FilePath) (text : String) : IO Unit := do
  let parent := { path with steps := path.steps.dropLast }
  if !parent.steps.isEmpty then IO.FS.createDirAll parent.text
  IO.FS.writeFile path.text text

end MacDispatch.Program

open MacDispatch Cli in
def main (arguments : List String) : IO UInt32 := do
  let environment ← Program.environment
  let here ← IO.currentDir
  let home : FileTree := .ofTexts ((here.toString.splitOn "/").filter (· != "")) []
  let outside : Settings.Surroundings := ⟨home, environment⟩
  let places := match Invocation.ofArguments arguments with
    | .ok invocation => Outcome.placesOf outside invocation
    | .error _ => []
  let tree ← places.foldlM Program.survey home
  let call := Call.ofArguments Program.compiled ⟨tree, environment⟩ arguments
  for event in call.logged do
    IO.eprintln (if call.logsObjects then event.json.compact else event.plain)
  try
    for (path, text) in call.written do
      Program.write path text
  catch fault =>
    IO.eprintln ("Error: " ++ (Failure.io (toString fault)).text)
    return 1
  IO.print call.output
  for complaint in call.complaint?.toList do
    IO.eprintln complaint
  return call.exitCode.toUInt32
