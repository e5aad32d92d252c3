import Offside.CommandLine.Report
import Offside.Session.Rehearsal

/-!
What is sent goes to the programs of `Rehearsal`: no process is started.
-/

open Offside CommandLine

def readContents (file : Utf8.Bytes) : IO (Except Unreadable Utf8.Bytes) := do
  match Utf8.decode? file with
  | none => return .error .missing
  | some name =>
    try
      let bytes ← IO.FS.readBinFile (String.ofList name)
      return .ok bytes.toList
    catch
      | .noFileOrDirectory .. => return .error .missing
      | .inappropriateType .. => return .error .directory
      | other => return .error (.refused (toString other))

def readEnvironment : IO Environment := do
  let interpreter ← IO.getEnv interpreterVariable
  let delay ← IO.getEnv delayVariable
  return fun name =>
    (if name = interpreterVariable then interpreter
      else if name = delayVariable then delay else none).map bytesOf

def main (words : List String) : IO UInt32 := do
  let arguments := words.map bytesOf
  let found ← match parse arguments with
    | .ok options => readContents options.file
    | .error _ => pure (.error .missing)
  let report := report arguments (← readEnvironment) ⟨fun _ => found, fun _ => Rehearsal.programs⟩
  (← IO.getStdout).putStr (String.ofList report.stdout)
  (← IO.getStderr).putStr (String.ofList report.stderr)
  return report.exit.toUInt32
