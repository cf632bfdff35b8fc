/-
This file says what the command does. It takes the path of one source, and the option to print
the tree. It refuses other arguments, a path that cannot be read, a source that cannot be divided
into tokens, and a program in which something is wrong, each with an exit code of its own kind.
-/

import Parlance.Command.Folder
import Parlance.Excerpt
import Parlance.Program

namespace Parlance.Command

/-- What the command is asked to do. -/
structure Request where
  /-- Whether the tree is to be printed. -/
  showTree : Bool
  /-- The path of the source. -/
  path : String
deriving DecidableEq

/-- Whether an argument is an option rather than a path. -/
def isOption (argument : String) : Bool :=
  ['-', '-'].isPrefixOf argument.toList

/-- The request that arguments make, if they name exactly one path. Options that are not known are
passed over. -/
def Request.ofArguments? (arguments : List String) : Option Request :=
  match arguments.filter (!isOption ·) with
  | [path] => some ⟨arguments.contains "--ast", path⟩
  | _ => none

/-- The last name in the path, by which tokens know their source. -/
def Request.fileName (request : Request) : String :=
  String.ofList (request.path.toList.reverse.takeWhile (· ≠ '/')).reverse

/-- How long the stages of a run took, as texts. -/
structure Timing where
  lexing : String
  parsing : String
  total : String

/-- What a run leaves behind. -/
structure Outcome where
  code : UInt32
  output : String := ""
  errors : String := ""

/-- The outcome for arguments that make no request. -/
def Outcome.usage : Outcome where
  code := 64
  errors := "usage: coem [--ast] <file>\n"

namespace Request

/-- The outcome for a path that cannot be read. -/
def unreadable (request : Request) (reason : String) : Outcome where
  code := 66
  errors := "Failed to read " ++ request.path ++ ": " ++ reason ++ "\n"

/-- The outcome for a source that cannot be divided into tokens. A run breaks off if the fault
cannot be shown. -/
def refused (request : Request) (source : String) (fault : Fault) : Outcome :=
  match fault.render source request.path with
  | .ok text => { code := 65, errors := text }
  | .error _ => { code := 101 }

/-- The outcome for a program that was read from the source. -/
def finished (request : Request) (program : Program) (timing : Timing) : Outcome :=
  let console := program.log.reported.foldl Console.report {}
  let stages := "Tokenized in " ++ timing.lexing ++ "\nParsed in " ++ timing.parsing ++ "\n"
  if console.hadError then { code := 65, output := stages, errors := console.text }
  else
    let tree := if request.showTree then programText program.statements ++ "\n" else ""
    { code := 0, output := stages ++ tree ++ "Total time: " ++ timing.total ++ "\n" }

/-- The outcome of a request for a source. -/
def outcome (request : Request) (source : String) (timing : Timing) : Outcome :=
  match Program.ofSource source request.fileName with
  | .error fault => request.refused source fault
  | .ok program => request.finished program timing

end Request

/-- The outcome of the command with some arguments in a folder. -/
def run (arguments : List String) (folder : Folder) (timing : Timing) : Outcome :=
  match Request.ofArguments? arguments with
  | none => .usage
  | some request =>
    match folder.read request.path with
    | .error error => request.unreadable error.message
    | .ok source => request.outcome source timing

end Parlance.Command
