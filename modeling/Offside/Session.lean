import Offside.Prompt

/-!
An interpreter is a program that reads its whole input and ends. Code is typed to it line by line, framed for
a prompt, with one more empty line after each delivery, which closes whatever statement the last lines left
open. Between the lines of one delivery there may be a pause.
-/

namespace Offside

inductive Ending where
  | exited (code : Nat)
  | killed (signal : Nat) (name : String)
  deriving DecidableEq, Repr

namespace Ending

def isSuccess (e : Ending) : Bool := e = .exited 0

def message : Ending → String
  | .exited code => s!"exit status: {code}"
  | .killed signal name => s!"signal: {signal} ({name})"

end Ending

/-- A program as it was started in some environment: what it prints for its arguments and its input, and how it
    ends, and what it prints to standard error. -/
structure Program where
  respond : List Text → Text → Text × Ending
  complain : List Text → Text → Text

/-- Why a program does not start. -/
inductive Unstarted where
  | missing
  /-- Another reason, in the system's words. -/
  | refused (reason : String)
  deriving DecidableEq, Repr

/-- What comes of starting a program by its name. -/
abbrev Programs := Text → Except Unstarted Program

def Programs.ofNames (find : Text → Option Program) : Programs := fun name =>
  (find name).elim (.error .missing) .ok

instance : Coe (Text → Option Program) Programs := ⟨.ofNames⟩

namespace Session

/-- Be interactive, and be quiet about it. -/
def arguments : List Text := [['-', 'i'], ['-', 'q']]

/-- What is done at the interpreter's input. -/
inductive Act where
  | pause (milliseconds : Nat)
  | write (t : Text)
  | flush
  deriving DecidableEq, Repr

def typeLine (l : Text) : List Act := [.write (l ++ ['\n']), .flush]

/-- Types a line that another came before, after the pause if there is one. -/
def typeNext (delay : Nat) (l : Text) : List Act :=
  if delay = 0 then typeLine l else .pause delay :: typeLine l

def typeLines (delay : Nat) : List Text → List Act
  | [] => []
  | l :: more => typeLine l ++ more.flatMap (typeNext delay)

/-- Types the lines of the code, framed, and an empty line. -/
def deliver (delay : Nat) (code : Text) : List Act :=
  typeLines delay (Prompt.interactive code) ++ typeLine []

/-- The text that reaches the interpreter. -/
def typed (acts : List Act) : Text :=
  acts.flatMap fun
    | .write t => t
    | _ => []

theorem typed_append (a b : List Act) : typed (a ++ b) = typed a ++ typed b := by simp [typed]

@[simp] theorem typed_typeLine (l : Text) : typed (typeLine l) = l ++ ['\n'] := by simp [typed, typeLine]

@[simp] theorem typed_typeNext (delay : Nat) (l : Text) : typed (typeNext delay l) = l ++ ['\n'] := by
  unfold typeNext; split <;> simp [typed, typeLine]

theorem typed_typeLines (delay : Nat) (ls : List Text) : typed (typeLines delay ls) = Text.unlines ls := by
  have later (more : List Text) : typed (more.flatMap (typeNext delay)) = Text.unlines more := by
    induction more with
    | nil => rfl
    | cons l more ih => simp [typed_append, ih]
  cases ls with
  | nil => rfl
  | cons l more => simp [typeLines, typed_append, later]

theorem typed_deliver (delay : Nat) (code : Text) :
    typed (deliver delay code) = Text.unlines (Prompt.interactive code) ++ ['\n'] := by
  simp [deliver, typed_append, typed_typeLines]

/-- Starts a program, delivers codes to it in turn and ends its input. -/
def hold (p : Program) (delay : Nat) (codes : List Text) : Text × Ending :=
  p.respond arguments (typed (codes.flatMap (deliver delay)))

def errors (p : Program) (delay : Nat) (codes : List Text) : Text :=
  p.complain arguments (typed (codes.flatMap (deliver delay)))

end Session
end Offside
