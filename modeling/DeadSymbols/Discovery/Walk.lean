import DeadSymbols.Config
import DeadSymbols.Ignore.Layer

/-!
# Source files below a folder

The entries of a folder are visited in the order of their names. Links are not followed, and a
folder that is left out is not entered.

* `Entry.sorted`: a tree with the entries of every folder sorted by name.
* `sourcesIn`: the names that lead to the source files among some entries.
-/

namespace DeadSymbols

/-- Puts an entry among entries sorted by name. Names are ordered by code point, which is the order
of their UTF-8 bytes. -/
def insertEntry (name : String) (e : Entry) : List (String × Entry) → List (String × Entry)
  | [] => [(name, e)]
  | (n, f) :: rest => if name < n then (name, e) :: (n, f) :: rest else (n, f) :: insertEntry name e rest

mutual

/-- The tree with the entries of every folder sorted by name. -/
def Entry.sorted : Entry → Entry
  | .folder entries => .folder (sortedEntries entries)
  | e => e
termination_by structural e => e

/-- The entries with their names, sorted. -/
def sortedEntries : List (String × Entry) → List (String × Entry)
  | [] => []
  | m :: rest => insertSorted m (sortedEntries rest)
termination_by structural es => es

/-- Sorts one entry and puts it among others. -/
def insertSorted : String × Entry → List (String × Entry) → List (String × Entry)
  | (name, e), rest => insertEntry name e.sorted rest
termination_by structural m => m

end

namespace Discovery

/-- What decides which entries are left out. -/
structure Filter where
  tree : FileTree
  /-- The names that lead to the folder in which the search began. -/
  root : List String
  extensions : List String
  /-- The rules of the patterns that are excluded, which overrule ignore files. -/
  excluded : List Ignore.Rule
  /-- Whether ignore files count. -/
  respectIgnoreFiles : Bool

namespace Filter

/-- Whether a name is hidden. -/
def isHidden (name : String) : Bool := name.toList.head? == some '.'

/-- The layers with that of a further folder, if ignore files count. -/
def enter (filter : Filter) (folder : List String) (layers : List Ignore.Layer) :
    List Ignore.Layer :=
  if filter.respectIgnoreFiles then Ignore.Layer.at filter.tree folder :: layers else []

/-- Whether the entry with a name, to which `names` lead, is left out. -/
def leavesOut (filter : Filter) (layers : List Ignore.Layer) (names : List String) (name : String)
    (isFolder : Bool) : Bool :=
  let overruled := Ignore.overruling filter.excluded (Ignore.pathBelow filter.root names) isFolder
  match overruled.or (Ignore.verdictOf layers names isFolder) with
  | some .ignored => true
  | some .kept => false
  | none => isHidden name

/-- Whether a name is that of a source file. -/
def isSource (filter : Filter) (name : String) : Bool :=
  (Path.nameExtension? name).any filter.extensions.contains

end Filter

mutual

/-- The source files in the entry with a name. -/
def sourcesAt (filter : Filter) (layers : List Ignore.Layer) (folder : List String) (name : String) :
    Entry → List (List String)
  | .file _ =>
    if filter.isSource name && !filter.leavesOut layers (folder ++ [name]) name false then
      [folder ++ [name]]
    else
      []
  | .link _ => []
  | .folder entries =>
    let inside := folder ++ [name]
    if filter.leavesOut layers inside name true then []
    else sourcesIn filter (filter.enter inside layers) inside entries
termination_by structural e => e

/-- The source files in a named entry. -/
def sourcesOf (filter : Filter) (layers : List Ignore.Layer) (folder : List String) :
    String × Entry → List (List String)
  | (name, e) => sourcesAt filter layers folder name e
termination_by structural m => m

/-- The source files among the entries of a folder. -/
def sourcesIn (filter : Filter) (layers : List Ignore.Layer) (folder : List String) :
    List (String × Entry) → List (List String)
  | [] => []
  | m :: rest => sourcesOf filter layers folder m ++ sourcesIn filter layers folder rest
termination_by structural es => es

end

/-- The layers of the folders above a folder, the nearest first. -/
def layersAbove (tree : FileTree) : List String → List Ignore.Layer
  | [] => []
  | _ :: above => Ignore.Layer.at tree above.reverse :: layersAbove tree above

/-- The source files below the folder in which the search begins. -/
def Filter.sources (filter : Filter) : List (List String) :=
  let above :=
    if filter.respectIgnoreFiles then layersAbove filter.tree filter.root.reverse else []
  match filter.tree.get? filter.root with
  | some folder =>
    sourcesIn filter (filter.enter filter.root above) filter.root folder.sorted.entries
  | none => []

end Discovery

end DeadSymbols
