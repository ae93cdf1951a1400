import DeadSymbols.Discovery.Walk
import DeadSymbols.Scan.Run

/-!
# Source files of a configuration

* `findFiles`: the source files under some folders, in the order of the folders.
-/

namespace DeadSymbols

/-- A pattern to exclude that is no pattern. -/
structure InvalidPattern where
  pattern : String
deriving DecidableEq, Repr

/-- The words for it. -/
def InvalidPattern.message (fault : InvalidPattern) : String :=
  s!"Invalid exclude pattern: {fault.pattern}"

/-- The rules for the patterns to exclude, or the first that is no pattern. Valid patterns can always
be put together: it is assumed that there are not so many that a matcher for all of them grows too
large. -/
def excludeRules : List String → Except InvalidPattern (List Ignore.Rule)
  | [] => .ok []
  | pattern :: rest =>
    match Ignore.Rule.ofLine false ('!' :: pattern.toList) with
    | .invalid => .error ⟨pattern⟩
    | .blank => excludeRules rest
    | .rule r => (excludeRules rest).map (r :: ·)

/-- The source files under the folder to which some names lead. -/
def filesUnder (config : Config) (tree : FileTree) (root : List String) :
    Except InvalidPattern (List SourceFile) :=
  (excludeRules config.exclude).map fun rules =>
    let filter : Discovery.Filter :=
      ⟨tree, root, config.extensions, rules, config.respectIgnoreFiles⟩
    filter.sources.map fun names => ⟨Path.ofNames names, Path.ofNames root⟩

/-- The source files under each of some folders. What is no folder is left out with a notice. -/
def filesUnderAll (config : Config) (tree : FileTree) :
    List String → Except InvalidPattern (List SourceFile) × List Notice
  | [] => (.ok [], [])
  | folder :: rest =>
    match tree.locate folder with
    | .ok (root, .folder _) =>
      match filesUnder config tree root with
      | .error fault => (.error fault, [])
      | .ok files =>
        let (more, notices) := filesUnderAll config tree rest
        (more.map (files ++ ·), notices)
    | _ =>
      let (more, notices) := filesUnderAll config tree rest
      (more, .skippedFolder folder :: notices)

/-- The files without those whose path comes earlier. -/
def withoutRepeats (seen : List String) : List SourceFile → List SourceFile
  | [] => []
  | file :: rest =>
    if seen.contains file.path then withoutRepeats seen rest
    else file :: withoutRepeats (file.path :: seen) rest

/-- The source files under some folders. -/
def findFiles (config : Config) (tree : FileTree) (folders : List String) :
    Except InvalidPattern (List SourceFile) × List Notice :=
  let (found, notices) := filesUnderAll config tree folders
  (if config.deduplicate then found.map (withoutRepeats []) else found, notices)

end DeadSymbols
