import DeadSymbols.FileTree
import DeadSymbols.Ignore.Rule
import DeadSymbols.Text.Lines

/-!
# Ignore files of folders

A folder may hold a `.ignore` file and, if it or a folder above it is the root of a repository, a
`.gitignore` file. The root of a repository may have further rules in its `.git` folder. The rules
of a folder hold for all that is below it.

The user may have further rules for all repositories. It is assumed that there are none.

* `Layer.at`: the rules that a folder brings.
* `verdictOf`: what the rules of a folder and of the folders above it say about a path.
-/

namespace DeadSymbols.Ignore

/-- The rules that one folder brings. -/
structure Layer where
  /-- The names that lead to the folder. -/
  folder : List String
  /-- The rules that hold everywhere. -/
  always : List Rule
  /-- The rules that hold inside a repository. -/
  tracked : List Rule
  /-- The further rules of a repository. -/
  repository : List Rule
  /-- Whether the folder is the root of a repository. -/
  isRoot : Bool
deriving Repr

/-- A line without byte order marks at its start. -/
def dropMarks (line : List Char) : List Char := line.dropWhile (· == Char.ofNat 0xFEFF)

/-- The rules in some lines. Lines that hold no rule are passed over. -/
def rulesOfLines (lines : List (List Char)) : List Rule :=
  lines.filterMap fun line =>
    match Rule.ofLine true line with
    | .rule r => some r
    | _ => none

/-- The rules in a text. -/
def rulesOf (bytes : List UInt8) : List Rule :=
  match (Text.textLines bytes).map String.toList with
  | [] => []
  | first :: rest => rulesOfLines (dropMarks first :: rest)

/-- The rules in a file; none if there is no such file. -/
def rulesAt (tree : FileTree) (path : String) : List Rule :=
  match tree.read path with
  | .ok bytes => rulesOf bytes
  | .error _ => []

/-- The first line of a file. -/
def firstLine? (tree : FileTree) (path : String) : Option String :=
  match tree.read path with
  | .ok bytes => (Text.textLines bytes).head?
  | .error _ => none

/-- What follows the mark of a line that names the folder of a linked repository. -/
def linkedFolder? (line : String) : Option String :=
  let mark := "gitdir: ".toList
  if mark.isPrefixOf line.toList then some (String.ofList (line.toList.drop mark.length)) else none

/-- The folder with the data of the repository at a root. It is `.git` itself, unless that is a
file, which then leads to the folder of a worktree and from there to that of the repository. -/
def repositoryData? (tree : FileTree) (root : String) : Option String :=
  let data := Path.join root ".git"
  match tree.locate data with
  | .ok (_, .file _) => do
    let worktree ← (← firstLine? tree data) |> linkedFolder?
    let shared ← firstLine? tree (Path.join worktree "commondir")
    some (if ['.'].isPrefixOf shared.toList then Path.join worktree shared else shared)
  | _ => some data

/-- The rules that a folder brings. -/
def Layer.at (tree : FileTree) (folder : List String) : Layer :=
  let path := Path.ofNames folder
  let inside (name : String) : String := Path.join path name
  { folder := folder
    always := rulesAt tree (inside ".ignore")
    tracked := rulesAt tree (inside ".gitignore")
    repository :=
      match repositoryData? tree path with
      | some data => rulesAt tree (Path.join data "info/exclude")
      | none => []
    isRoot := tree.pathExists (inside ".git") || tree.pathExists (inside ".jj") }

/-- The text of a path seen from a folder above it. -/
def pathBelow (folder names : List String) : List UInt8 :=
  Text.encode ("/".intercalate (names.drop folder.length))

/-- The layers up to the root of the repository, that one included. -/
def withinRepository : List Layer → List Layer
  | [] => []
  | layer :: rest => if layer.isRoot then [layer] else layer :: withinRepository rest

/-- What some layers say about a path. The first layer is that of the folder of the path, and each
later one belongs to the folder above. An inner folder overrules an outer one, and rules that hold
everywhere overrule the others. The user is assumed to have no rules for all repositories, which the
others would overrule. -/
def verdictOf (layers : List Layer) (names : List String) (isFolder : Bool) : Option Verdict :=
  let ask (layers : List Layer) (rules : Layer → List Rule) : Option Verdict :=
    layers.findSome? fun l => verdict (rules l) (pathBelow l.folder names) isFolder
  let inner := if layers.any (·.isRoot) then withinRepository layers else []
  (ask layers Layer.always).or ((ask inner Layer.tracked).or (ask inner Layer.repository))

end DeadSymbols.Ignore
