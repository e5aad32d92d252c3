import Offside.Line
import Offside.Text.Lines
import Offside.Text.Word

/-!
An interactive prompt ends a compound statement only when it reads a blank line. Before a statement that is
not indented and follows an indented line, a blank line is put in, unless the statement is a clause that
carries on the compound statement above it.
-/

namespace Offside.Prompt

/-- Blank space, if any, and then a colon. -/
def colonFollows (t : Text) : Bool := (Text.trimStart t).head? = some ':'

/-- Whether a line begins with a clause that carries on a compound statement: `else` or `finally` with a colon
    after it, `elif` with blank space after it, or the word `except`. -/
def resumes (l : Text) : Bool :=
  (Text.after? ['e', 'l', 's', 'e'] l).any colonFollows ||
    (Text.after? ['e', 'l', 'i', 'f'] l).any (·.head?.any Text.isSpace) ||
    (Text.after? ['e', 'x', 'c', 'e', 'p', 't'] l).any Text.endsWord ||
    (Text.after? ['f', 'i', 'n', 'a', 'l', 'l', 'y'] l).any colonFollows

/-- Frames lines, given whether the line before them was part of an indented body. -/
def frameFrom (inBody : Bool) : List Text → List Text
  | [] => []
  | l :: more =>
    if Text.isBlank l then l :: frameFrom false more
    else if 0 < Line.indent l then l :: frameFrom true more
    else if inBody && !resumes l then [] :: l :: frameFrom false more
    else l :: frameFrom false more

def begins (l : Text) : Bool := !Text.isBlank l && Line.indent l = 0 && !resumes l

/-- What framing puts in before a line. -/
def opening (inBody : Bool) (l : Text) : List Text := if inBody && begins l then [[]] else []

theorem opening_of_isBlank (inBody : Bool) {l : Text} (blank : Text.isBlank l) : opening inBody l = [] := by
  simp [opening, begins, blank]

theorem opening_of_indent (inBody : Bool) {l : Text} (deep : 0 < Line.indent l) : opening inBody l = [] := by
  simp [opening, begins, Nat.ne_of_gt deep]

theorem frameFrom_cons (inBody : Bool) (l : Text) (more : List Text) :
    frameFrom inBody (l :: more) = opening inBody l ++ l :: frameFrom (Line.isBody 0 l) more := by
  simp only [frameFrom, opening, begins, Line.isBody]
  by_cases blank : Text.isBlank l
  · simp [blank]
  by_cases deep : 0 < Line.indent l
  · simp [blank, deep, Nat.ne_of_gt deep]
  have flat : Line.indent l = 0 := Nat.eq_zero_of_not_pos deep
  by_cases resuming : resumes l <;> cases inBody <;> simp [blank, flat, resuming]

theorem frameFrom_append (inBody : Bool) (above below : List Text) :
    frameFrom inBody (above ++ below) =
      frameFrom inBody above ++ frameFrom (above.getLast?.elim inBody (Line.isBody 0)) below := by
  induction above generalizing inBody with
  | nil => rfl
  | cons l above ih =>
    have last : (l :: above).getLast?.elim inBody (Line.isBody 0) =
        above.getLast?.elim (Line.isBody 0 l) (Line.isBody 0) := by
      rw [List.getLast?_cons]
      cases above.getLast? <;> rfl
    rw [List.cons_append, frameFrom_cons, ih, frameFrom_cons, last]
    simp

def frame (ls : List Text) : List Text := frameFrom false ls

/-- The lines that a prompt is to read for a piece of code. -/
def interactive (code : Text) : List Text := frame (Text.lines code)

theorem frame_concat (above : List Text) (l : Text) :
    frame (above ++ [l]) = frame above ++ opening (above.getLast?.any (Line.isBody 0)) l ++ [l] := by
  rw [frame, frameFrom_append, frameFrom_cons, frame, List.append_assoc]
  cases above.getLast? <;> rfl

theorem sublist_frameFrom (inBody : Bool) (ls : List Text) : ls.Sublist (frameFrom inBody ls) := by
  induction ls generalizing inBody with
  | nil => exact List.nil_sublist _
  | cons l more ih =>
    rw [frameFrom_cons]
    exact ((ih _).cons_cons l).trans (List.sublist_append_right ..)

theorem frameFrom_eq_self (inBody : Bool) {ls : List Text} (deep : ∀ l ∈ ls, 0 < Line.indent l) :
    frameFrom inBody ls = ls := by
  induction ls generalizing inBody with
  | nil => rfl
  | cons l more ih =>
    have nothing : opening inBody l = [] := opening_of_indent inBody (deep l List.mem_cons_self)
    rw [frameFrom_cons, nothing, List.nil_append, ih _ fun m member => deep m (List.mem_cons_of_mem _ member)]

/-- Nothing is put in where only the first line may not be indented. -/
theorem frame_eq_self {ls : List Text} (deep : ∀ l ∈ ls.tail, 0 < Line.indent l) : frame ls = ls := by
  cases ls with
  | nil => rfl
  | cons l more =>
    have nothing : opening false l = [] := rfl
    have rest : frameFrom (Line.isBody 0 l) more = more := frameFrom_eq_self _ deep
    rw [frame, frameFrom_cons, nothing, rest, List.nil_append]

end Offside.Prompt
