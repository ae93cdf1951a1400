import DeadSymbols.Glob.Parser
import DeadSymbols.Text.Space

/-!
# Ignore rules

A line of an ignore file names paths to leave out, or, after an exclamation mark, paths to keep
although an earlier line leaves them out. Of the rules that fit a path the last one counts.

* `Rule.ofLine`: the rule in a line.
* `verdict`: what some rules say about a path.
* `overruling`: what they say if they are read the other way round, to overrule ignore files.
-/

namespace DeadSymbols.Ignore

/-- One rule. -/
structure Rule where
  glob : Glob
  /-- Whether the rule keeps what fits it. -/
  keeps : Bool
  /-- Whether only folders fit. -/
  onlyFolders : Bool
deriving Repr

/-- What a line holds. -/
inductive Line where
  | blank
  | rule (r : Rule)
  | invalid

/-- What rules say about a path. -/
inductive Verdict where
  | ignored
  | kept
deriving DecidableEq, Repr

/-- A line without white space at its end, unless a backslash stands before the last space. -/
def trimLine (line : List Char) : List Char :=
  match line.reverse with
  | ' ' :: '\\' :: _ => line
  | _ => Text.trimEndChars line

/-- A pattern without the slash at its end, and whether there was one. A backslash before the slash
goes with it. -/
def splitFolderMark (cs : List Char) : List Char × Bool :=
  match cs.reverse with
  | '/' :: '\\' :: rest => (rest.reverse, true)
  | '/' :: rest => (rest.reverse, true)
  | _ => (cs, false)

/-- Two stars and a slash at the start, or two stars alone. -/
def startsAnywhere (cs : List Char) : Bool :=
  cs == ['*', '*'] || ['*', '*', '/'].isPrefixOf cs

/-- The pattern for whole paths that a written pattern stands for. A pattern without a slash fits
at any depth; one that ends in two stars fits what is inside a folder and not the folder. -/
def wholePattern (anchored : Bool) (cs : List Char) : List Char :=
  let cs :=
    if !anchored && !cs.contains '/' && !startsAnywhere cs then ['*', '*', '/'] ++ cs else cs
  if ['*', '*', '/'].isPrefixOf cs.reverse then cs ++ ['/', '*'] else cs

namespace Rule

/-- The rule of a pattern after its marks were taken off. -/
def ofPattern (lenient keeps anchored : Bool) (cs : List Char) : Line :=
  let (cs, onlyFolders) := splitFolderMark cs
  match Glob.parse? lenient (wholePattern anchored cs) with
  | some glob => .rule ⟨glob, keeps, onlyFolders⟩
  | none => .invalid

/-- The rule in a line. If `lenient` is set, a bracket that is not closed stands for itself. -/
def ofLine (lenient : Bool) (line : List Char) : Line :=
  match line with
  | '#' :: _ => .blank
  | _ =>
    match trimLine line with
    | [] => .blank
    | '\\' :: '!' :: rest => ofPattern lenient false false ('!' :: rest)
    | '\\' :: '#' :: rest => ofPattern lenient false false ('#' :: rest)
    | '!' :: '/' :: rest => ofPattern lenient true true rest
    | '!' :: rest => ofPattern lenient true false rest
    | '/' :: rest => ofPattern lenient false true rest
    | cs => ofPattern lenient false false cs

/-- Whether a path fits a rule. -/
def fits (r : Rule) (path : List UInt8) (isFolder : Bool) : Bool :=
  (!r.onlyFolders || isFolder) && r.glob.matches path

/-- What a rule says about what fits it. -/
def verdict (r : Rule) : Verdict := if r.keeps then .kept else .ignored

end Rule

/-- What the last rule that fits a path says. -/
def verdict (rules : List Rule) (path : List UInt8) (isFolder : Bool) : Option Verdict :=
  (rules.reverse.find? (·.fits path isFolder)).map Rule.verdict

/-- The verdict the other way round. -/
def Verdict.opposite : Verdict → Verdict
  | .ignored => .kept
  | .kept => .ignored

/-- What rules say that overrule ignore files. They mean the opposite of what they mean there: a
rule with an exclamation mark leaves out what fits it. As soon as one has none, files that fit no
rule are left out. -/
def overruling (rules : List Rule) (path : List UInt8) (isFolder : Bool) : Option Verdict :=
  match verdict rules path isFolder with
  | some v => some v.opposite
  | none => if rules.any (!·.keeps) && !isFolder then some .ignored else none

end DeadSymbols.Ignore
