import Offside.Place
import Offside.Text.Lines

/-!
A buffer holds a text together with its lines. It is made from a text, which is cut at its newlines, or from
lines, which are joined; in both cases the text is the join of the lines.
-/

namespace Offside

/-- The failure to look up a line. -/
structure OutOfRange where
  line : Nat
  lineCount : Nat
  deriving DecidableEq, Repr

def OutOfRange.message (e : OutOfRange) : String :=
  s!"Line {e.line} out of range (document has {e.lineCount} lines)"

structure Buffer where
  lines : List Text
  text : Text
  text_eq : text = Text.join lines

namespace Buffer

instance : DecidableEq Buffer := fun a b =>
  decidable_of_iff (a.lines = b.lines ∧ a.text = b.text) (by cases a; cases b; simp)

/-- A newline at the end of the text makes a last line that is empty. -/
def ofText (t : Text) : Buffer := ⟨Text.pieces t, t, (Text.join_pieces t).symm⟩

/-- The lines are not cut again, so one may hold a newline; without any line the text is empty. -/
def ofLines (ls : List Text) : Buffer := ⟨ls, Text.join ls, rfl⟩

def lineCount (b : Buffer) : Nat := b.lines.length

def line (b : Buffer) (n : Nat) : Except OutOfRange Text :=
  match b.lines[n]? with
  | some l => .ok l
  | none => .error ⟨n, b.lineCount⟩

theorem line_eq_ok_iff (b : Buffer) (n : Nat) (l : Text) : b.line n = .ok l ↔ b.lines[n]? = some l := by
  unfold line; split <;> simp_all

theorem line_eq_error_iff (b : Buffer) (n : Nat) (e : OutOfRange) :
    b.line n = .error e ↔ b.lineCount ≤ n ∧ e = ⟨n, b.lineCount⟩ := by
  unfold line lineCount
  split
  · next l h =>
    have := (List.getElem?_eq_some_iff.1 h).1
    simp; omega
  · next h => simp [List.getElem?_eq_none_iff.1 h, eq_comm]

/-- The lines from `first` to `last`, both included, as far as they are there. -/
def excerpt (b : Buffer) (first last : Nat) : List Text := (b.lines.take (last + 1)).drop first

theorem getElem?_excerpt (b : Buffer) (first : Nat) {last i : Nat} (upTo : first + i ≤ last) :
    (b.excerpt first last)[i]? = b.lines[first + i]? := by
  rw [excerpt, List.getElem?_drop, List.getElem?_take, if_pos (Nat.lt_succ_of_le upTo)]

theorem length_excerpt (b : Buffer) (first : Nat) {last : Nat} (present : last < b.lineCount) :
    (b.excerpt first last).length = last + 1 - first := by
  have enough : last + 1 ≤ b.lines.length := present
  rw [excerpt, List.length_drop, List.length_take, Nat.min_eq_left enough]

/-- Lines cut to a span: the first loses what comes before column `start` and the last keeps what comes before
    column `stop`. Columns past the end of a line stand for its end. -/
def clip (start stop : Nat) : List Text → List Text
  | [] => []
  | [l] => [(l.take stop).drop start]
  | l :: more => l.drop start :: clip 0 stop more

/-- The text of a span. A span that ends on a line before the one it begins on has none. -/
def textOf (b : Buffer) (s : Span) : Except OutOfRange Text := do
  let _ ← b.line s.first.line
  let _ ← b.line s.last.line
  let covered := (b.lines.take (s.last.line + 1)).drop s.first.line
  return Text.join (clip s.first.column s.last.column covered)

end Buffer
end Offside
