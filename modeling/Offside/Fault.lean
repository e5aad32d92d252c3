import Offside.Buffer
import Offside.Session
import Offside.Sink
import Offside.Text.Numeral

namespace Offside

open Utf8 (Bytes)

/-- What the system says of a name that nothing goes by. -/
def noSuchFile : String := "No such file or directory (os error 2)"

/-- Why a file cannot be read as text. -/
inductive Unreadable where
  | missing
  | directory
  /-- Its bytes are not well-formed UTF-8. -/
  | notText
  /-- Another reason, in the system's words. -/
  | refused (reason : String)
  deriving DecidableEq, Repr

def Unreadable.message : Unreadable → String
  | .missing => noSuchFile
  | .directory => "Is a directory (os error 21)"
  | .notText => "stream did not contain valid UTF-8"
  | .refused reason => reason

def Unstarted.message : Unstarted → String
  | .missing => noSuchFile
  | .refused reason => reason

def interpreterVariable : String := "PYTHON_REPL_RUNNER_INTERPRETER"

def delayVariable : String := "PYTHON_REPL_RUNNER_LINE_DELAY_MS"

inductive Fault where
  | badStart (spec : Text) (flaw : Numeral.Flaw)
  | badEnd (spec : Text) (flaw : Numeral.Flaw)
  | lineZero (spec : Text)
  | backwards (spec : Text)
  | badDelay (value : Text) (flaw : Numeral.Flaw)
  | unreadable (file : Bytes) (why : Unreadable)
  /-- The last line that is wanted, counted from one, is past the end of the file. -/
  | pastEnd (line lineCount : Nat)
  /-- The last of selected lines is not there. -/
  | outOfRange (why : OutOfRange)
  /-- Another line that is wanted is not there. -/
  | notExtracted (why : OutOfRange)
  | undelivered (why : Sink.Refusal)
  | notStarted (interpreter : Text) (why : Unstarted := .missing)
  | failed (interpreter : Text) (ending : Ending)
  deriving DecidableEq, Repr

namespace Fault

def message : Fault → String
  | badStart spec _ => let spec := String.ofList spec; s!"Invalid start line in '{spec}'"
  | badEnd spec _ => let spec := String.ofList spec; s!"Invalid end line in '{spec}'"
  | lineZero spec => let spec := String.ofList spec; s!"Line numbers start at 1, got '{spec}'"
  | backwards spec => let spec := String.ofList spec; s!"Selection end comes before its start in '{spec}'"
  | badDelay value _ => let value := String.ofList value; s!"Invalid {delayVariable} value '{value}'"
  | unreadable file _ => let shown := String.ofList (Utf8.decodeLossy file); s!"Error reading file {shown}"
  | pastEnd line lineCount => s!"Line {line} is past the end of the file ({lineCount} lines)"
  | outOfRange why => why.message
  | notExtracted _ => "Failed to extract code"
  | undelivered why => why.message
  | notStarted interpreter _ =>
    let name := String.ofList interpreter; s!"Failed to start interpreter '{name}'"
  | failed interpreter ending =>
    let name := String.ofList interpreter; s!"Interpreter '{name}' exited with {ending.message}"

def cause : Fault → Option String
  | badStart _ flaw | badEnd _ flaw | badDelay _ flaw => some flaw.message
  | unreadable _ why => some why.message
  | notExtracted why => some why.message
  | undelivered why => some why.reason
  | notStarted _ why => some why.message
  | lineZero _ | backwards _ | pastEnd _ _ | outOfRange _ | failed _ _ => none

end Fault
end Offside
