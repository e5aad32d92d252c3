import Offside.Block
import Offside.Line

/-!
A block begins at a header and goes on for as long as lines are deeper than it; a blank line ends it. To
locate the block of a line is to choose the header that the line is anchored at, without looking at what
ends its block, so the block may end above the line that was asked for. A line with no header to be
anchored at is a block by itself.
-/

namespace Offside

/-- How a line chooses its header. -/
inductive Anchoring where
  /-- An indented line takes the nearest header above it that is not indented. -/
  | outermost
  /-- A header takes itself; another indented line takes the nearest header above it that is less
      indented than it is. -/
  | innermost
  deriving DecidableEq, Repr

/-- On what ground a block was found: it begins at a header, or it is a line that is neither indented nor a
    header, or an indented line with no header to be anchored at. -/
inductive Ground where
  | header
  | plain
  | orphan
  deriving DecidableEq, Repr

structure Finding where
  ground : Ground
  block : Block
  deriving DecidableEq, Repr

namespace Block

/-- The line `first` and the body below it. -/
def headedBy (lines : List Text) (first : Nat) : Block :=
  let depth := (lines[first]?.map Line.indent).getD 0
  let body := (lines.drop (first + 1)).takeWhile (Line.isBody depth)
  ⟨first, first + body.length, Nat.le_add_right ..⟩

theorem first_headedBy (lines : List Text) (n : Nat) : (headedBy lines n).first = n := rfl

theorem last_headedBy_lt {lines : List Text} {n : Nat} (h : n < lines.length) :
    (headedBy lines n).last < lines.length := by
  simp only [headedBy]
  have := (List.takeWhile_sublist (Line.isBody ((lines[n]?.map Line.indent).getD 0))
    (l := lines.drop (n + 1))).length_le
  simp only [List.length_drop] at this
  omega

theorem isBody_of_mem_headedBy {lines : List Text} {n i : Nat} {header l : Text}
    (hn : lines[n]? = some header) (hi : lines[i]? = some l) (below : n < i)
    (inside : i ∈ headedBy lines n) : Line.isBody (Line.indent header) l := by
  let inBody := Line.isBody (Line.indent header)
  let rest := lines.drop (n + 1)
  simp only [mem_iff, headedBy, hn, Option.map_some, Option.getD_some] at inside
  have early : i - (n + 1) < (rest.takeWhile inBody).length := by
    have := inside.2
    change i ≤ n + (rest.takeWhile inBody).length at this
    omega
  have found : (rest.takeWhile inBody ++ rest.dropWhile inBody)[i - (n + 1)]? =
      (rest.takeWhile inBody)[i - (n + 1)]? := List.getElem?_append_left early
  rw [List.takeWhile_append_dropWhile, List.getElem?_drop, show n + 1 + (i - (n + 1)) = i from by omega,
    hi] at found
  exact List.all_eq_true.1 List.all_takeWhile l (List.mem_of_getElem? found.symm)

theorem not_isBody_after_headedBy {lines : List Text} {n : Nat} {header l : Text}
    (hn : lines[n]? = some header) (next : lines[(headedBy lines n).last + 1]? = some l) :
    Line.isBody (Line.indent header) l = false := by
  let inBody := Line.isBody (Line.indent header)
  let rest := lines.drop (n + 1)
  simp only [headedBy, hn, Option.map_some, Option.getD_some] at next
  have found : (rest.takeWhile inBody ++ rest.dropWhile inBody)[(rest.takeWhile inBody).length]? =
      (rest.dropWhile inBody)[(rest.takeWhile inBody).length - (rest.takeWhile inBody).length]? :=
    List.getElem?_append_right (Nat.le_refl _)
  rw [List.takeWhile_append_dropWhile, List.getElem?_drop, Nat.sub_self, Nat.add_right_comm, next,
    ← List.head?_eq_getElem?] at found
  have stops := List.head?_dropWhile_not inBody rest
  rw [← found] at stops
  simpa using stops

end Block

/-- The number of the nearest of the first `n` lines, from below, that has the property `p`. -/
def nearestAbove (p : Text → Bool) (lines : List Text) : Nat → Option Nat
  | 0 => none
  | n + 1 => if lines[n]?.any p then some n else nearestAbove p lines n

theorem nearestAbove_eq_some_iff (p : Text → Bool) (lines : List Text) (n i : Nat) :
    nearestAbove p lines n = some i ↔
      i < n ∧ lines[i]?.any p ∧ ∀ j, i < j → j < n → lines[j]?.any p = false := by
  induction n with
  | zero => simp [nearestAbove]
  | succ n ih =>
    simp only [nearestAbove]
    split
    · next here =>
      constructor
      · rintro ⟨rfl⟩
        exact ⟨by omega, here, fun j above lt => by omega⟩
      · rintro ⟨below, _, none⟩
        by_cases same : i = n
        · rw [same]
        · exact absurd here (by simp [none n (by omega) (by omega)])
    · next notHere =>
      rw [ih]
      constructor
      · rintro ⟨below, holds, none⟩
        refine ⟨by omega, holds, fun j above lt => ?_⟩
        by_cases same : j = n
        · rw [same]; simpa using notHere
        · exact none j above (by omega)
      · rintro ⟨below, holds, none⟩
        have other : i ≠ n := by rintro rfl; exact notHere holds
        exact ⟨by omega, holds, fun j above lt => none j above (by omega)⟩

theorem nearestAbove_eq_none_iff (p : Text → Bool) (lines : List Text) (n : Nat) :
    nearestAbove p lines n = none ↔ ∀ j, j < n → lines[j]?.any p = false := by
  induction n with
  | zero => simp [nearestAbove]
  | succ n ih =>
    simp only [nearestAbove]
    split
    · next here =>
      simp only [reduceCtorEq, false_iff]
      intro none
      exact absurd here (by simp [none n (by omega)])
    · next notHere =>
      rw [ih]
      constructor
      · intro none j lt
        by_cases same : j = n
        · rw [same]; simpa using notHere
        · exact none j (by omega)
      · intro none j lt
        exact none j (by omega)

namespace Anchoring

/-- Whether a line is its own header. -/
def anchorsItself (how : Anchoring) (l : Text) : Bool :=
  Line.isHeader l && (how = .innermost || Line.indent l = 0)

/-- Whether a line below, indented by `depth`, may be anchored at the line `l`. -/
def admits (how : Anchoring) (depth : Nat) (l : Text) : Bool :=
  Line.isHeader l && match how with
    | .outermost => Line.indent l = 0
    | .innermost => Line.indent l < depth

/-- What is found for line `n` of the lines, which reads `l`. -/
def find (how : Anchoring) (lines : List Text) (n : Nat) (l : Text) : Finding :=
  if how.anchorsItself l then ⟨.header, .headedBy lines n⟩
  else if Line.indent l = 0 then ⟨.plain, .single n⟩
  else match nearestAbove (how.admits (Line.indent l)) lines n with
    | some header => ⟨.header, .headedBy lines header⟩
    | none => ⟨.orphan, .single n⟩

end Anchoring

namespace Buffer

/-- Locates the block of line `n`. -/
def locate (b : Buffer) (how : Anchoring) (n : Nat) : Except OutOfRange Finding := do
  let l ← b.line n
  return how.find b.lines n l

theorem locate_eq_ok_iff (b : Buffer) (how : Anchoring) (n : Nat) (f : Finding) :
    b.locate how n = .ok f ↔ ∃ l, b.lines[n]? = some l ∧ how.find b.lines n l = f := by
  unfold locate line
  cases b.lines[n]? with
  | none => simp [bind, Except.bind]
  | some l => simp [bind, Except.bind, pure, Except.pure]

theorem locate_eq_error_iff (b : Buffer) (how : Anchoring) (n : Nat) (e : OutOfRange) :
    b.locate how n = .error e ↔ b.lineCount ≤ n ∧ e = ⟨n, b.lineCount⟩ := by
  rw [← line_eq_error_iff]
  unfold locate
  cases b.line n <;> simp [bind, Except.bind, pure, Except.pure]

/-- The text of the block of line `n`. -/
def blockText (b : Buffer) (how : Anchoring) (n : Nat) : Except OutOfRange Text := do
  let found ← b.locate how n
  let span ← found.block.span b
  b.textOf span

end Buffer

/-- A step of a search worth a message. -/
inductive Note where
  | caret (line : Nat)
  | found (how : Anchoring) (line : Nat) (finding : Finding)
  deriving DecidableEq, Repr

/-- What there is none of above an orphan. -/
def Anchoring.lacking : Anchoring → String
  | .outermost => "top-level block-start above it"
  | .innermost => "enclosing block-start"

def Note.message : Note → String
  | .caret line => s!"empty selection; locating block at line {line}"
  | .found _ line ⟨.plain, _⟩ => s!"line {line} is a plain top-level statement"
  | .found how line ⟨.orphan, _⟩ => s!"line {line} has no {how.lacking}; falling back"
  | .found _ line ⟨.header, block⟩ =>
    s!"line {line} resolved to block {block.first}..={block.last} ({block.lineCount} lines)"

/-- The messages about locating the block of line `n`: none if it is not there. -/
def Buffer.notes (b : Buffer) (how : Anchoring) (n : Nat) : List Note :=
  match b.locate how n with
  | .ok finding => [.found how n finding]
  | .error _ => []

end Offside
