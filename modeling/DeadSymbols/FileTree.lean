import DeadSymbols.OsError
import DeadSymbols.Path

/-!
# File trees

A tree of folders, files and symbolic links as a value, with the directory from which relative
paths start. Paths are resolved name by name, links are followed.

* `locate`: the names of the entry that a path leads to, free of links and dots, and the entry.
* `read`, `readText`, `write`, `list`: the operations on files and folders.
* `place`: builds trees.
-/

namespace DeadSymbols

/-- A file with its content, a link with the path it stands for, or a folder. -/
inductive Entry where
  | file (content : List UInt8)
  | link (target : String)
  | folder (entries : List (String × Entry))
deriving Repr

namespace Entry

/-- Whether an entry is a folder. -/
def isFolder : Entry → Bool
  | folder _ => true
  | _ => false

/-- The entry of a folder with a name. -/
def child? (name : String) : Entry → Option Entry
  | folder entries => entries.lookup name
  | _ => none

/-- The entry that some names lead to from here. -/
def get? : List String → Entry → Option Entry
  | [], e => some e
  | name :: rest, e => (e.child? name).bind (get? rest)

/-- Puts an entry among others, in the place of one with the same name. -/
def setChild (name : String) (e : Entry) : List (String × Entry) → List (String × Entry)
  | [] => [(name, e)]
  | (n, old) :: rest => if n == name then (name, e) :: rest else (n, old) :: setChild name e rest

/-- The entries of a folder; a file or a link has none. -/
def entries : Entry → List (String × Entry)
  | folder es => es
  | _ => []

/-- Puts an entry where some names lead from here, with the folders on the way. -/
def set (e : Entry) : List String → Entry → Entry
  | [], new => new
  | name :: rest, new =>
    let child := (e.entries.lookup name).getD (folder [])
    folder (setChild name (child.set rest new) e.entries)

end Entry

/-- A tree of files and the folder from which relative paths start. -/
structure FileTree where
  root : Entry
  /-- The names of the current folder, from the root. -/
  current : List String
deriving Repr

namespace FileTree

/-- The entry at some names below the root. -/
def get? (tree : FileTree) (names : List String) : Option Entry := tree.root.get? names

/-- How many links may be followed on the way to an entry. -/
def maxLinks : Nat := 40

/-- The longest name, in bytes. -/
def maxNameBytes : Nat := 255

/-- The longest path, in bytes. -/
def maxPathBytes : Nat := 4095

/-- Follows the pieces of a path from the folder at `names` up to a link, from where `onLink` goes
on. A piece that is empty or a dot only asks that there be a folder. -/
def walkTo (tree : FileTree) (follow : Bool)
    (onLink : List String → List String → Except OsError (List String × Entry)) :
    List String → List String → Except OsError (List String × Entry)
  | names, [] =>
    match tree.get? names with
    | some e => .ok (names, e)
    | none => .error .notFound
  | names, piece :: rest =>
    match tree.get? names with
    | none => .error .notFound
    | some (.file _) | some (.link _) => .error .notDirectory
    | some (.folder entries) =>
      if piece == "" || piece == "." then walkTo tree follow onLink names rest
      else if piece == ".." then walkTo tree follow onLink names.dropLast rest
      else if maxNameBytes < piece.utf8ByteSize then .error .nameTooLong
      else
        match entries.lookup piece with
        | none => .error .notFound
        | some (.link target) =>
          if !follow && rest.isEmpty then .ok (names ++ [piece], .link target)
          else onLink (if Path.isAbsolute target then [] else names) (Path.pieces target ++ rest)
        | some _ => walkTo tree follow onLink (names ++ [piece]) rest

/-- Follows the pieces of a path, and with them as many links as `links` at most. The last link is
followed if `follow` is set. -/
def walk (tree : FileTree) (follow : Bool) :
    Nat → List String → List String → Except OsError (List String × Entry)
  | 0 => walkTo tree follow fun _ _ => .error .tooManyLinks
  | links + 1 => walkTo tree follow (walk tree follow links)

/-- Refuses paths that no operation accepts. -/
def checkPath (path : String) : Except OsError Unit :=
  if path.toList.any (· == Char.ofNat 0) then .error .nulInPath
  else if path.isEmpty then .error .notFound
  else if maxPathBytes < path.utf8ByteSize then .error .nameTooLong
  else .ok ()

/-- The names and the entry that a path leads to. -/
def locateWith (tree : FileTree) (follow : Bool) (path : String) :
    Except OsError (List String × Entry) := do
  checkPath path
  walk tree follow maxLinks (if Path.isAbsolute path then [] else tree.current) (Path.pieces path)

/-- The names and the entry that a path leads to, links followed. -/
def locate (tree : FileTree) (path : String) : Except OsError (List String × Entry) :=
  tree.locateWith true path

/-- Whether a path leads to an entry. -/
def pathExists (tree : FileTree) (path : String) : Bool := (tree.locate path).isOk

/-- The content of a file. -/
def read (tree : FileTree) (path : String) : Except OsError (List UInt8) := do
  match ← tree.locate path with
  | (_, .file content) => .ok content
  | _ => .error .isDirectory

/-- The content of a file as text. -/
def readText (tree : FileTree) (path : String) : Except OsError String := do
  match Text.decode (← tree.read path) with
  | .ok s => .ok s
  | .error _ => .error .notUtf8

/-- The entries of a folder. -/
def list (tree : FileTree) (path : String) : Except OsError (List (String × Entry)) := do
  match ← tree.locate path with
  | (_, .folder entries) => .ok entries
  | _ => .error .notDirectory

/-- Puts a file where some names lead. -/
def put (tree : FileTree) (names : List String) (content : List UInt8) : FileTree :=
  { tree with root := tree.root.set names (.file content) }

/-- Puts an entry at a path, with the folders on the way. A folder that is there stays, and a file
that is there gets the new content. -/
def place (tree : FileTree) (path : String) (entry : Entry) : FileTree :=
  let start := if Path.isAbsolute path then [] else tree.current
  let names := start ++ (Path.pieces path).filter fun p => p != "" && p != "."
  let folder := names.dropLast
  let folder := match tree.locate (Path.ofNames folder) with
    | .ok (found, .folder _) => found
    | _ => folder
  let names := folder ++ names.getLast?.toList
  match entry, tree.locate (Path.ofNames names) with
  | .folder _, .ok (_, .folder _) => tree
  | .file _, .ok (found, .file _) => { tree with root := tree.root.set found entry }
  | _, _ => { tree with root := tree.root.set names entry }

/-- Follows a path to the place where a file may be written: the names of a file that is there, or
of one that can be created in a folder that is there. -/
def writable (tree : FileTree) (links : Nat) (names : List String) (path : List String) :
    Except OsError (List String) :=
  match path with
  | [] => .error .isDirectory
  | piece :: rest =>
    match tree.get? names with
    | none => .error .notFound
    | some (.file _) | some (.link _) => .error .notDirectory
    | some (.folder entries) =>
      if piece == "" || piece == "." then writable tree links names rest
      else if piece == ".." then writable tree links names.dropLast rest
      else if maxNameBytes < piece.utf8ByteSize then .error .nameTooLong
      else
        match entries.lookup piece with
        | none =>
          if rest.isEmpty then .ok (names ++ [piece])
          else if rest.all (· == "") then .error .isDirectory
          else .error .notFound
        | some (.link target) =>
          match links with
          | 0 => .error .tooManyLinks
          | links + 1 =>
            writable tree links (if Path.isAbsolute target then [] else names)
              (Path.pieces target ++ rest)
        | some (.file _) =>
          if rest.isEmpty then .ok (names ++ [piece]) else .error .notDirectory
        | some (.folder _) => writable tree links (names ++ [piece]) rest
termination_by (links, path.length)

/-- The names of the file that a path names for writing. -/
def target (tree : FileTree) (path : String) : Except OsError (List String) := do
  checkPath path
  writable tree maxLinks (if Path.isAbsolute path then [] else tree.current) (Path.pieces path)

/-- Writes a file, in the place of what it held before. -/
def write (tree : FileTree) (path : String) (content : List UInt8) : Except OsError FileTree := do
  .ok (tree.put (← tree.target path) content)

end FileTree

end DeadSymbols
