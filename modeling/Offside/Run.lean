import Offside.Target

namespace Offside

open Utf8 (Bytes)

/-- What a run finds around it: the bytes of the files, by their names, and the programs. -/
structure Host where
  contents : Bytes → Except Unreadable Bytes
  programs : Programs

def Host.readText (host : Host) (file : Bytes) : Except Unreadable Text := do
  let bytes ← host.contents file
  match Utf8.decode? bytes with
  | some t => return t
  | none => throw .notText

/-- What to run and how. -/
structure Job where
  file : Bytes
  target : Target
  how : Anchoring
  /-- Type the code to the interpreter rather than print it. -/
  send : Bool
  interpreter : Text
  /-- The pause between lines, in milliseconds. -/
  delay : Nat
  deriving DecidableEq, Repr

/-- What became of a run that went well. -/
inductive Outcome where
  | delivered (lines : Nat)
  | nothingToRun
  deriving DecidableEq, Repr

/-- The end of a run, and all that was printed until then. -/
structure Ran where
  outcome : Except Fault Outcome
  output : Text
  /-- What an interpreter printed to standard error. -/
  errors : Text

namespace Job

def code (job : Job) (host : Host) : Except Fault Text := do
  let source ← (host.readText job.file).mapError (.unreadable job.file)
  job.target.code source job.how

/-- Types code to the interpreter. What the interpreter printed counts even if it fails. -/
def typeCode (job : Job) (host : Host) (code : Text) : Ran :=
  match host.programs job.interpreter with
  | .error why => ⟨.error (.notStarted job.interpreter why), [], []⟩
  | .ok program =>
    let (output, ending) := Session.hold program job.delay [code]
    let errors := Session.errors program job.delay [code]
    if ending.isSuccess then ⟨.ok (.delivered (Text.lines code).length), output, errors⟩
    else ⟨.error (.failed job.interpreter ending), output, errors⟩

/-- Reads the file, extracts the code and prints or types it, unless it is blank. -/
def run (job : Job) (host : Host) : Ran :=
  match job.code host with
  | .error fault => ⟨.error fault, [], []⟩
  | .ok code =>
    if Text.isBlank code then ⟨.ok .nothingToRun, [], []⟩
    else if job.send then job.typeCode host code
    else ⟨.ok (.delivered (Text.lines code).length), code ++ ['\n'], []⟩

end Job
end Offside
