import Offside.Buffer

namespace Offside

namespace Text

theorem join_eq_intercalate (ls : List Text) : join ls = ['\n'].intercalate ls := by
  fun_induction join ls with
  | case1 => rfl
  | case2 l => simp [List.intercalate]
  | case3 l more some ih =>
    obtain ⟨next, rest, rfl⟩ := List.exists_cons_of_ne_nil some
    simp [ih, List.intercalate]

/-- The lines that a text is cut into are the only ones that it could be cut into. -/
theorem pieces_eq_iff (t : Text) (ls : List Text) :
    pieces t = ls ↔ (ls ≠ [] ∧ ∀ l ∈ ls, '\n' ∉ l) ∧ join ls = t := by
  constructor
  · rintro rfl
    exact ⟨⟨pieces_ne_nil t, fun l => not_mem_of_mem_pieces⟩, join_pieces t⟩
  · rintro ⟨⟨some, clean⟩, rfl⟩
    exact pieces_join some clean

end Text

namespace Buffer

theorem eq_iff_lines {b b' : Buffer} : b = b' ↔ b.lines = b'.lines := by
  constructor
  · rintro rfl
    rfl
  · intro same
    obtain ⟨lines, text, text_eq⟩ := b
    obtain ⟨lines', text', text_eq'⟩ := b'
    obtain rfl : lines = lines' := same
    rw [mk.injEq, text_eq, text_eq']
    exact ⟨rfl, rfl⟩

theorem ofText_text_iff (b : Buffer) : ofText b.text = b ↔ b.lines ≠ [] ∧ ∀ l ∈ b.lines, '\n' ∉ l := by
  have cut : (ofText b.text).lines = Text.pieces b.text := rfl
  rw [eq_iff_lines, cut, Text.pieces_eq_iff]
  exact and_iff_left b.text_eq.symm

/-- The text and the lines of a buffer never drift apart. A buffer of a text has one line more than the text has
    newlines, none in any line, and the lines put together are the text. A buffer of lines has them put
    together for its text, and is the buffer of that text exactly if there is a line and no line has a newline. -/
theorem text_and_lines_agree :
    (∀ t : Text, (ofText t).lineCount = t.count '\n' + 1 ∧ (∀ l ∈ (ofText t).lines, '\n' ∉ l) ∧
      ['\n'].intercalate (ofText t).lines = t ∧ (ofText t).text = t) ∧
      ∀ ls : List Text, (ofLines ls).lines = ls ∧ (ofLines ls).text = ['\n'].intercalate ls ∧
        (ofText (['\n'].intercalate ls) = ofLines ls ↔ ls ≠ [] ∧ ∀ l ∈ ls, '\n' ∉ l) := by
  refine ⟨?_, ?_⟩
  · intro t
    refine ⟨Text.length_pieces t, fun l => Text.not_mem_of_mem_pieces, ?_, rfl⟩
    rw [← Text.join_eq_intercalate]
    exact Text.join_pieces t
  · intro ls
    rw [← Text.join_eq_intercalate]
    exact ⟨rfl, rfl, ofText_text_iff (ofLines ls)⟩

example : (ofText []).lines = [[]] ∧ ofText [] ≠ ofLines [] := by decide

example : (ofLines ["a\nb".toList, []]).lineCount = 2 ∧ (ofText "a\nb\n".toList).lineCount = 3 := by decide

end Buffer
end Offside
