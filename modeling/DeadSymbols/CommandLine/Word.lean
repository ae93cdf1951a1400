/-!
# Words of a command line

A command line is a list of words. A word that starts with a dash names options: two dashes and a
long name, or one dash and the letters of several options. A long name may be followed by `=` and
a value; a letter by its value with or without `=`, up to the end of the word. Otherwise the value
is the next word, which then starts with no dash unless it is a dash alone. After the word `--`
all words stand for folders.

* `Argument`: what one or two words stand for.
* `arguments`: what the words of a command line stand for, in order.
-/

namespace DeadSymbols.CommandLine

/-- The options that take no value. -/
inductive Switch where
  | deduplicate
  | verbose
  | quiet
  | help
  | version
deriving DecidableEq, Repr

/-- The options that take a value. -/
inductive Setting where
  | config
  | root
  | exclude
  | extension
  | server
  | format
  | output
  | logFile
  | maxReferences
  | timeout
deriving DecidableEq, Repr

/-- An option of either kind. -/
inductive Choice where
  | switch (s : Switch)
  | setting (s : Setting)
deriving DecidableEq, Repr

/-- The options by their long names. -/
def longNames : List (String × Choice) :=
  [("config", .setting .config), ("root", .setting .root), ("exclude", .setting .exclude),
    ("extension", .setting .extension), ("server", .setting .server),
    ("format", .setting .format), ("output", .setting .output), ("log-file", .setting .logFile),
    ("max-references", .setting .maxReferences), ("dedupe", .switch .deduplicate),
    ("timeout", .setting .timeout), ("verbose", .switch .verbose), ("quiet", .switch .quiet),
    ("help", .switch .help), ("version", .switch .version)]

/-- The options by their letters. -/
def letters : List (Char × Choice) :=
  [('c', .setting .config), ('e', .setting .exclude), ('f', .setting .format),
    ('o', .setting .output), ('v', .switch .verbose), ('q', .switch .quiet), ('h', .switch .help),
    ('V', .switch .version)]

/-- The long name of a setting. -/
def Setting.name (s : Setting) : String :=
  ((longNames.find? fun entry => entry.2 == .setting s).map (·.1)).getD ""

/-- The long name of a switch. -/
def Switch.name (s : Switch) : String :=
  ((longNames.find? fun entry => entry.2 == .switch s).map (·.1)).getD ""

/-- What a command line stands for, piece by piece. -/
inductive Argument where
  | folder (path : String)
  | switch (s : Switch)
  | setting (s : Setting) (value : String)
  /-- An option that there is not. -/
  | unknown (name : String)
  /-- A setting without a value. -/
  | unset (s : Setting)
  /-- A switch with a value. -/
  | overset (s : Switch)
deriving DecidableEq, Repr

/-- The arguments that a word holds, and the setting whose value is the next word. -/
abbrev Reading := List Argument × Option Setting

/-- Reads the letters of a word that starts with one dash. -/
def readLetters : List Char → Reading
  | [] => ([], none)
  | c :: rest =>
    match letters.lookup c with
    | none => ([.unknown (String.singleton c)], none)
    | some (.switch s) =>
      let (more, awaiting) := readLetters rest
      (.switch s :: more, awaiting)
    | some (.setting s) =>
      match rest with
      | [] => ([], some s)
      | '=' :: value => ([.setting s (String.ofList value)], none)
      | value => ([.setting s (String.ofList value)], none)

/-- Reads the rest of a word that starts with two dashes. -/
def readLong (cs : List Char) : Reading :=
  let name := String.ofList (cs.takeWhile (· != '='))
  match longNames.lookup name, cs.dropWhile (· != '=') with
  | none, _ => ([.unknown name], none)
  | some (.switch s), [] => ([.switch s], none)
  | some (.switch s), _ :: _ => ([.overset s], none)
  | some (.setting s), [] => ([], some s)
  | some (.setting s), _ :: value => ([.setting s (String.ofList value)], none)

/-- Reads one word. -/
def readWord (word : String) : Reading :=
  match word.toList with
  | '-' :: '-' :: cs => readLong cs
  | '-' :: c :: cs => readLetters (c :: cs)
  | _ => ([.folder word], none)

/-- Whether a word names options, or ends them. -/
def isOption (word : String) : Bool :=
  match word.toList with
  | '-' :: _ :: _ => true
  | _ => false

/-- What the words of a command line stand for. -/
def arguments : List String → List Argument
  | [] => []
  | word :: rest =>
    if word == "--" then rest.map .folder
    else
      match readWord word with
      | (here, none) => here ++ arguments rest
      | (here, some s) =>
        match rest with
        | [] => here ++ [.unset s]
        | value :: later =>
          if isOption value then here ++ [.unset s]
          else here ++ .setting s value :: arguments later

end DeadSymbols.CommandLine
