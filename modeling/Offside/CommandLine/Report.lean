import Offside.CommandLine.Options

/-!
The program, from its arguments and environment to what it prints and the code it exits with: 2 when its
arguments are refused, 1 when the run fails, and 0 otherwise. Before the file is read, first the span of
lines is looked at and then the pause, even where nothing is going to be sent.
-/

namespace Offside.CommandLine

open Utf8 (Bytes)

structure Report where
  exit : Nat
  stdout : Text
  stderr : Text
  deriving DecidableEq, Repr

/-- The values of environment variables. -/
abbrev Environment := String → Option Bytes

/-- A variable that is text; one that is not counts as unset. -/
def Environment.text? (env : Environment) (name : String) : Option Text := env name >>= Utf8.decode?

/-- What the program finds around it: the bytes of the files, and the programs that are started in an environment.
    A program is started in the environment of the one that starts it. -/
structure Machine where
  contents : Bytes → Except Unreadable Bytes
  programs : Environment → Programs

def Machine.host (machine : Machine) (env : Environment) : Host := ⟨machine.contents, machine.programs env⟩

/-- A host is a machine with programs that take no notice of the environment. -/
instance : Coe Host Machine := ⟨fun host => ⟨host.contents, fun _ => host.programs⟩⟩

namespace Options

def target (o : Options) : Except Fault Target :=
  match o.pick with
  | .line number => return .caret (number - 1)
  | .select spec => Target.readSpan spec

def job (o : Options) (env : Environment) : Except Fault Job := do
  let target ← o.target
  let delay ← Settings.delay o.delay (env.text? delayVariable)
  return {
    file := o.file
    target := target
    how := if o.innermost then .innermost else .outermost
    send := o.send
    interpreter := Settings.interpreter o.interpreter (env.text? interpreterVariable)
    delay := delay
  }

end Options

/-- A fault as it is shown to the user, with its cause below it. -/
def faultText (fault : Fault) : Text :=
  let shown := s!"Error: {fault.message}\n"
  (match fault.cause with
    | none => shown
    | some cause => s!"{shown}\nCaused by:\n    {cause}\n").toList

/-- What the user is told of a run that went well. -/
def outcomeText (job : Job) : Outcome → Text
  | .nothingToRun => "No code to execute\n".toList
  | .delivered lines =>
    if job.send then s!"Sent {lines} line(s) to ".toList ++ job.interpreter ++ ['\n'] else []

/-- The version is told; the other texts are those of the library that reads the arguments. -/
def plainWording : Stop → Text
  | .version => "run_selection 0.1.0\n".toList
  | .refusal | .help => []

def Stop.report (wording : Stop → Text) : Stop → Report
  | .refusal => ⟨2, [], wording .refusal⟩
  | .help => ⟨0, wording .help, []⟩
  | .version => ⟨0, wording .version, []⟩

/-- What an interpreter prints comes before what the program says of the run. -/
def runReport (job : Job) (ran : Ran) : Report :=
  match ran.outcome with
  | .error fault => ⟨1, ran.output, ran.errors ++ faultText fault⟩
  | .ok outcome => ⟨0, ran.output, ran.errors ++ outcomeText job outcome⟩

def Options.report (o : Options) (env : Environment) (machine : Machine) : Report :=
  match o.job env with
  | .error fault => ⟨1, [], faultText fault⟩
  | .ok job => runReport job (job.run (machine.host env))

/-- The program, with a wording for what is said where there is no run. -/
def report (arguments : List Bytes) (env : Environment) (machine : Machine)
    (wording : Stop → Text := plainWording) : Report :=
  match parse arguments with
  | .error stop => stop.report wording
  | .ok options => options.report env machine

end Offside.CommandLine
