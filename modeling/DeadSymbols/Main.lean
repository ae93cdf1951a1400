import DeadSymbols.CommandLine.Run

/-!
# The program

Reads the files that a command line concerns, runs, and prints what the run gives. The run is not at
a terminal, and so nobody picks folders. No command is ever started from here: a run that comes to
the server ends there, before any file is written.
-/

namespace DeadSymbols.Program

/-- Reads what is behind an item of a folder, links not followed. What cannot be read is left
out. -/
partial def load (item : IO.FS.DirEntry) : IO Entry := do
  match (← item.path.symlinkMetadata).type with
  | .dir =>
    let mut entries := []
    for child in ← item.path.readDir do
      try
        entries := (child.fileName, ← load child) :: entries
      catch _ => pure ()
    return .folder entries
  | .symlink => return .link (← IO.FS.realPath item.path).toString
  | .file => return .file (← IO.FS.readBinFile item.path).toList
  | .other => throw (IO.userError "neither a file nor a folder")

/-- Puts what is at a path into a tree, if it can be read. -/
def add (tree : FileTree) (path : String) : IO FileTree := do
  try
    let real := (← IO.FS.realPath path).toString
    let names := (Path.pieces real).filter (· != "")
    let entry ← load ⟨"/", real⟩
    let tree := { tree with root := tree.root.set names entry }
    return if tree.pathExists path then tree else tree.place path (.link real)
  catch _ => return tree

/-- The files above a folder that say which files are ignored. -/
def ignoreFiles (names : List String) : List String :=
  (List.range names.length).flatMap fun n =>
    [".ignore", ".gitignore", ".git/info/exclude", ".git/HEAD"].map
      (Path.join (Path.ofNames (names.take n)))

/-- The files that a scan concerns: those in the current folder and at the paths that the command
line gives, and the ignore files above them. -/
def tree (options : CommandLine.Options) : IO FileTree := do
  let current := (Path.pieces (← IO.currentDir).toString).filter (· != "")
  let given := "." :: options.root.toList ++ options.config.toList ++ options.folders
  let mut tree : FileTree := ⟨.folder [], current⟩
  for path in given do
    tree ← add tree path
  for path in given do
    if let .ok (names, .folder _) := tree.locate path then
      for file in ignoreFiles names do
        tree ← add tree file
  return tree

/-- A launcher that refuses every command. -/
def launcher : Launcher Unit where
  peer := {
    hear := fun _ _ s => (.error .brokenPipe, s)
    accept := fun _ s => (.error .brokenPipe, s) }
  start _ _ := .error .permissionDenied

/-- The files that a command line concerns; none unless it asks for a scan. -/
def filesFor (words : List String) : IO FileTree :=
  match CommandLine.Order.ofWords words with
  | .ok (.scan options) => tree options
  | _ => return ⟨.folder [], []⟩

/-- Whether the error output is to be silent. -/
def isQuiet (words : List String) : Bool :=
  match CommandLine.Order.ofWords words with
  | .ok (.scan options) => options.quiet
  | _ => false

end DeadSymbols.Program

open DeadSymbols in
/-- Runs the program and gives its status. -/
def main (words : List String) : IO UInt32 := do
  let run := CommandLine.Run.ofWords Program.launcher (← Program.filesFor words) 0 words
  unless Program.isQuiet words do
    for notice in run.notices do
      IO.eprintln notice.text
  if let some text := run.failure? then
    IO.eprintln text
  IO.print run.output
  return UInt32.ofNat run.status
