import Mathlib.Algebra.BigOperators.Group.List.Basic
import Mathlib.Algebra.GroupWithZero.Nat
import Offside.Proofs.Extraction

namespace Offside

namespace Text

theorem length_unlines (ls : List Text) : (unlines ls).length = (ls.map fun l => l.length + 1).sum := by
  induction ls with
  | nil => rfl
  | cons l ls ih => simp [ih]; omega

theorem drop_min {t : Text} {n : Nat} (short : t.length ≤ n) (column : Nat) :
    t.drop (min column n) = t.drop column := by
  rcases Nat.le_total column n with le | ge
  · rw [Nat.min_eq_left le]
  · rw [Nat.min_eq_right ge, List.drop_eq_nil_of_le short, List.drop_eq_nil_of_le (Nat.le_trans short ge)]

theorem take_join_cons (l : Text) (more : List Text) (column : Nat) :
    (join (l :: more)).take (min column l.length) = l.take column := by
  have inside : min column l.length ≤ l.length := Nat.min_le_right ..
  cases more with
  | nil => simp [join]
  | cons next rest => simp [join, List.take_append_of_le_length inside]

theorem drop_join_cons (l : Text) (more : List Text) (column : Nat) :
    (join (l :: more)).drop (min column l.length) = join (l.drop column :: more) := by
  have inside : min column l.length ≤ l.length := Nat.min_le_right ..
  have same : l.drop (min column l.length) = l.drop column := drop_min (Nat.le_refl _) column
  cases more with
  | nil => simp [join, same]
  | cons next rest => simp [join, List.drop_append_of_le_length inside, same]

end Text

namespace Buffer

variable {b : Buffer} {p q : Place} {l m : Text} {n : Nat}

/-- How many characters of the text come before a place: the lines above it, each with its newline, and what its own
    line has up to the column. -/
def offset (b : Buffer) (p : Place) : Nat :=
  ((b.lines.take p.line).map fun l => l.length + 1).sum +
    min p.column ((b.lines[p.line]?.map List.length).getD 0)

theorem offset_eq (here : b.lines[p.line]? = some l) :
    b.offset p = (Text.unlines (b.lines.take p.line)).length + min p.column l.length := by
  simp [offset, here, Text.length_unlines]

theorem drop_take_of_lt {i : Nat} (here : b.lines[i]? = some l) (lt : i < n) :
    (b.lines.take n).drop i = l :: (b.lines.take n).drop (i + 1) := by
  obtain ⟨present, read⟩ := List.getElem?_eq_some_iff.mp here
  have there : i < (b.lines.take n).length := by rw [List.length_take]; omega
  rw [List.drop_eq_getElem_cons there, List.getElem_take, read]

theorem take_eq_of_lt {i : Nat} (here : b.lines[i]? = some l) (lt : i < n) :
    b.lines.take n = b.lines.take i ++ l :: (b.lines.take n).drop (i + 1) := by
  have above : (b.lines.take n).take i = b.lines.take i := by
    rw [List.take_take, Nat.min_eq_left (Nat.le_of_lt lt)]
  rw [← drop_take_of_lt here lt, ← above, List.take_append_drop]

/-- The text up to a place is the lines above it and the start of its own line. -/
theorem take_offset (here : b.lines[p.line]? = some l) :
    b.text.take (b.offset p) = Text.join (b.lines.take p.line ++ [l.take p.column]) := by
  have parts : b.lines = b.lines.take p.line ++ l :: b.lines.drop (p.line + 1) := by
    have present := (List.getElem?_eq_some_iff.mp here).1
    simpa using take_eq_of_lt (n := b.lines.length) here present
  have text : b.text = Text.unlines (b.lines.take p.line) ++ Text.join (l :: b.lines.drop (p.line + 1)) := by
    rw [b.text_eq, ← Text.join_append _ (List.cons_ne_nil _ _), ← parts]
  rw [text, offset_eq here, List.take_length_add_append, Text.take_join_cons,
    Text.join_append _ (List.cons_ne_nil _ _)]
  rfl

/-- A place on a line further down has the greater offset, whatever the columns. -/
theorem offset_lt_of_line_lt (above : p.line < q.line) (hp : b.lines[p.line]? = some l)
    (hq : b.lines[q.line]? = some m) : b.offset p < b.offset q := by
  rw [offset_eq hp, offset_eq hq, take_eq_of_lt hp above, Text.unlines_append, Text.unlines_cons]
  simp only [List.length_append, List.length_cons]
  omega

/-- From one line to a later one: the rest of the first, the lines between, and the start of the last. -/
theorem textOf_of_lt {s : Span} (hp : b.lines[s.first.line]? = some l) (hq : b.lines[s.last.line]? = some m)
    (lt : s.first.line < s.last.line) :
    b.textOf s = .ok (Text.join (l.drop s.first.column ::
      ((b.lines.take s.last.line).drop (s.first.line + 1) ++ [m.take s.last.column]))) := by
  rw [textOf_eq_join hp hq, excerpt_eq_concat hq (Nat.le_of_lt lt), drop_take_of_lt hp lt, List.cons_append,
    clip_cons _ _ _ (by simp), clip_concat]

theorem textOf_same_line {s : Span} (here : b.lines[s.first.line]? = some l) (same : s.first.line = s.last.line) :
    b.textOf s = .ok ((l.take s.last.column).drop s.first.column) := by
  have alone : b.excerpt s.first.line s.last.line = [l] := by
    rw [← same, excerpt_eq_concat here (Nat.le_refl _), List.drop_eq_nil_of_le (List.length_take_le ..), List.nil_append]
  rw [textOf_eq_join here (same ▸ here), alone]
  rfl

theorem textOf_of_gt {s : Span} (hp : b.lines[s.first.line]? = some l) (hq : b.lines[s.last.line]? = some m)
    (gt : s.last.line < s.first.line) : b.textOf s = .ok [] := by
  have none : b.excerpt s.first.line s.last.line = [] :=
    List.drop_eq_nil_of_le (Nat.le_trans (List.length_take_le ..) gt)
  rw [textOf_eq_join hp hq, none]
  rfl

theorem textOf_eq_between {s : Span} (hp : b.lines[s.first.line]? = some l) (hq : b.lines[s.last.line]? = some m) :
    b.textOf s = .ok ((b.text.take (b.offset s.last)).drop (b.offset s.first)) := by
  rcases Nat.lt_trichotomy s.first.line s.last.line with lt | same | gt
  · have parts : b.lines.take s.last.line ++ [m.take s.last.column] = b.lines.take s.first.line ++
        l :: ((b.lines.take s.last.line).drop (s.first.line + 1) ++ [m.take s.last.column]) := by
      rw [← List.cons_append, ← List.append_assoc, ← take_eq_of_lt hp lt]
    rw [textOf_of_lt hp hq lt, take_offset hq, parts, offset_eq hp, Text.join_append _ (List.cons_ne_nil _ _),
      List.drop_length_add_append, Text.drop_join_cons]
  · obtain rfl : l = m := Option.some.inj (by rw [← hp, same, hq])
    have short : (l.take s.last.column).length ≤ l.length := List.length_take_le' ..
    rw [textOf_same_line hp same, take_offset hq, ← same, offset_eq hp, Text.join_append _ (List.cons_ne_nil _ _),
      List.drop_length_add_append, ← Text.drop_min short]
    rfl
  · have before : b.offset s.last < b.offset s.first := offset_lt_of_line_lt gt hq hp
    rw [textOf_of_gt hp hq gt, List.drop_eq_nil_of_le]
    exact Nat.le_trans (List.length_take_le ..) (Nat.le_of_lt before)

theorem textOf_missing_first {s : Span} (missing : b.lineCount ≤ s.first.line) :
    b.textOf s = .error ⟨s.first.line, b.lineCount⟩ := by
  have failed := (b.line_eq_error_iff s.first.line _).mpr ⟨missing, rfl⟩
  simp only [textOf, failed, bind, Except.bind]

theorem textOf_missing_last {s : Span} (present : s.first.line < b.lineCount) (missing : b.lineCount ≤ s.last.line) :
    b.textOf s = .error ⟨s.last.line, b.lineCount⟩ := by
  have found := (b.line_eq_ok_iff s.first.line _).mpr (List.getElem?_eq_getElem present)
  have failed := (b.line_eq_error_iff s.last.line _).mpr ⟨missing, rfl⟩
  simp only [textOf, found, failed, bind, Except.bind]

/-- The text of a span is one stretch of the text of its buffer, from the offset of its first place up to that of its
    last, and empty where these are not in order. Where one of its lines is not there, the first of them is the one
    that is reported. -/
theorem textOf_eq_stretch (b : Buffer) (s : Span) :
    b.textOf s =
      if b.lineCount ≤ s.first.line then .error ⟨s.first.line, b.lineCount⟩
      else if b.lineCount ≤ s.last.line then .error ⟨s.last.line, b.lineCount⟩
      else if b.offset s.last ≤ b.offset s.first then .ok []
      else .ok ((b.text.drop (b.offset s.first)).take (b.offset s.last - b.offset s.first)) := by
  by_cases first : b.lineCount ≤ s.first.line
  · rw [if_pos first, textOf_missing_first first]
  by_cases last : b.lineCount ≤ s.last.line
  · rw [if_neg first, if_pos last, textOf_missing_last (Nat.lt_of_not_le first) last]
  have hp := List.getElem?_eq_getElem (Nat.lt_of_not_le first)
  have hq := List.getElem?_eq_getElem (Nat.lt_of_not_le last)
  rw [if_neg first, if_neg last, textOf_eq_between hp hq, List.drop_take]
  by_cases order : b.offset s.last ≤ b.offset s.first
  · rw [if_pos order, Nat.sub_eq_zero_of_le order, List.take_zero]
  · rw [if_neg order]

example : (ofLines ["é😀".toList, "a\nb".toList, "c".toList]).textOf ⟨⟨0, 1⟩, ⟨1, 9⟩⟩ = .ok "😀\na\nb".toList := rfl

end Buffer
end Offside
