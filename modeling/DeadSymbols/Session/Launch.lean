import DeadSymbols.Config
import DeadSymbols.Session.Client

/-!
# Starting servers

A server is started by the words of a command in the folder that it is to work in. The first word
is the program: a path if it has a slash, and otherwise a name that the system looks up.

* `Launcher`: a way to start servers.
* `Client.start`: the client of the server that a configuration names.
-/

namespace DeadSymbols

/-- A way to start servers with states `σ`. -/
structure Launcher (σ : Type) where
  peer : Peer σ
  /-- Starts the server of a command in a folder. -/
  start : List String → String → Except OsError (Session σ)

namespace FileTree

/-- The same tree with another current folder. -/
def within (tree : FileTree) (names : List String) : FileTree := { tree with current := names }

/-- The program of a command and the names of the folder in which it is to run. -/
def program (tree : FileTree) (words : List String) (folder : String) :
    Except OsError (String × List String) := do
  if (folder :: words).any fun w => w.toList.any (· == Char.ofNat 0) then .error .nulInCommand
  else
    match ← tree.locate folder with
    | (names, .folder _) => .ok (words.headD "", names)
    | _ => .error .notDirectory

/-- Why a word names no program, if no entry of the tree may be run as one. -/
def refusal (tree : FileTree) (word : String) : OsError :=
  if word.toList.contains '/' then
    match tree.locate word with
    | .error cause => cause
    | .ok _ => .permissionDenied
  else
    .notFound

end FileTree

namespace Client

variable {σ : Type}

/-- The client of the server that a configuration names, before the handshake. -/
def start (launcher : Launcher σ) (files : FileTree) (processId : Nat) (config : ServerConfig)
    (root : String) : Except Fault (Client σ × Session σ) :=
  if config.command.isEmpty then .error .emptyCommand
  else
    match launcher.start config.command root with
    | .error cause => .error (.spawn (" ".intercalate config.command) cause)
    | .ok session =>
      .ok ({ peer := launcher.peer
             files := files
             languageId := config.languageId
             requestLimit := config.requestTimeout.map (· * 1000)
             processId := processId }, session)

end Client

end DeadSymbols
