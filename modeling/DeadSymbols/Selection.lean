import DeadSymbols.FileTree

/-!
# Folders to choose from

Folders are given, or else a user at a terminal picks some of those that are offered.

* `candidates`: a folder and the folders in it, hidden ones left out.
* `Picker.folders`: the folders that are given or picked.
-/

namespace DeadSymbols

/-- Puts a name among sorted names. -/
def insertName (name : String) : List String → List String
  | [] => [name]
  | n :: rest => if name < n then name :: n :: rest else n :: insertName name rest

/-- The names of the folders among some entries, sorted, hidden ones and links left out. -/
def folderNames (entries : List (String × Entry)) : List String :=
  (entries.filter fun e => e.2.isFolder && e.1.toList.head? != some '.').foldr
    (fun e names => insertName e.1 names) []

/-- A folder and the folders in it by name. -/
def candidates (tree : FileTree) (base : String) : Except OsError (List String) :=
  (tree.list base).map fun entries => base :: (folderNames entries).map (Path.join base)

/-- Whoever picks folders when none are given. -/
inductive Picker where
  /-- Nobody does: the output and the error output are not both terminals. -/
  | nobody
  /-- The user is shown some folders and picks some of them by their places, or the prompt fails. -/
  | user (pick : List String → Except String (List Nat))

/-- The folders that are given, or else those that are picked among a folder and the folders in
it. -/
def Picker.folders (picker : Picker) (tree : FileTree) (base : String) (given : List String) :
    Except String (List String) :=
  if given.isEmpty then
    match picker with
    | .nobody => .ok []
    | .user pick =>
      match candidates tree base with
      | .error cause => .error cause.message
      | .ok offered => (pick offered).map fun places => places.filterMap (offered[·]?)
  else .ok given

end DeadSymbols
