/-
This file is the command line. It reads the source from disk, takes the time of the two stages,
and writes what the command says of the source.
-/

import Parlance.Command.Duration
import Parlance.Command.Request

namespace Parlance.Command

/-- The text at a path on disk, or why there is none. -/
def readSource (path : String) : IO (Except String String) := do
  try
    match String.fromUTF8? (← IO.FS.readBinFile path) with
    | some text => return .ok text
    | none => return .error ReadError.notText.message
  catch error =>
    match error with
    | .noFileOrDirectory .. => return .error ReadError.missing.message
    | .inappropriateType _ 21 _ => return .error ReadError.isFolder.message
    | .inappropriateType .. => return .error ReadError.throughFile.message
    | .invalidArgument _ code _ =>
      -- The system gives its code as it is or negated, by the call that failed.
      if code = 36 || code = -36 then return .error ReadError.tooLong.message
      else return .error (toString error)
    | other => return .error (toString other)

/-- Runs both stages on a source and takes their times. -/
def timeStages (source file : String) : IO Timing := do
  let start ← IO.monoNanosNow
  let lexed ← IO.lazyPure fun _ => tokenize source file
  let between ← IO.monoNanosNow
  let _ ← IO.lazyPure fun _ => lexed.map (Program.ofTokens · file)
  let stop ← IO.monoNanosNow
  return {
    lexing := durationText (between - start)
    parsing := durationText (stop - between)
    total := durationText (stop - start) }

/-- What the command says of its arguments and the source on disk. -/
def perform (arguments : List String) : IO Outcome := do
  match Request.ofArguments? arguments with
  | none => return .usage
  | some request =>
    match ← readSource request.path with
    | .error reason => return request.unreadable reason
    | .ok source => return request.outcome source (← timeStages source request.fileName)

end Parlance.Command

/-- Runs the command. -/
def main (arguments : List String) : IO UInt32 := do
  let outcome ← Parlance.Command.perform arguments
  (← IO.getStdout).putStr outcome.output
  (← IO.getStderr).putStr outcome.errors
  return outcome.code
