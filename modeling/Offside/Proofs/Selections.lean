import Offside.Proofs.Offsets

namespace Offside

variable {b : Buffer} {first last : Nat} {l : Text}

namespace Highlight

theorem span_backwards (after : last < first) (column : Nat) :
    (⟨⟨first, 0⟩, ⟨last, column⟩⟩ : Highlight).span = ⟨⟨last, column⟩, ⟨first, 0⟩⟩ := by
  have before : (⟨last, column⟩ : Place) < ⟨first, 0⟩ := .inl after
  rw [span, Span.between, if_pos before]

theorem code_span_backwards (after : last < first) (column : Nat) (b : Buffer) (how : Anchoring) :
    (⟨⟨first, 0⟩, ⟨last, column⟩⟩ : Highlight).code b how = b.textOf ⟨⟨last, column⟩, ⟨first, 0⟩⟩ := by
  have wide : (⟨first, 0⟩ : Place) ≠ ⟨last, column⟩ := by
    rintro ⟨rfl, rfl⟩
    exact Nat.lt_irrefl _ after
  rw [code_of_ne wide, span_backwards after]

/-- From the start of a line back to the end of one above it there are the lines between the two. -/
theorem code_backwards (here : b.lines[last]? = some l) (after : last < first) (present : first < b.lineCount)
    (how : Anchoring) :
    (⟨⟨first, 0⟩, ⟨last, l.length⟩⟩ : Highlight).code b how =
      .ok ('\n' :: Text.unlines (b.excerpt (last + 1) (first - 1))) := by
  have there : b.lines[first]? = some b.lines[first] := List.getElem?_eq_getElem present
  have between : (b.lines.take first).drop (last + 1) = b.excerpt (last + 1) (first - 1) := by
    rw [Buffer.excerpt, Nat.sub_add_cancel (Nat.one_le_of_lt after)]
  rw [code_span_backwards after, Buffer.textOf_of_lt here there after, between, List.drop_length,
    Text.join_cons_of_ne_nil [] (by simp), Text.join_append _ (List.cons_ne_nil _ _)]
  simp [Text.join]

theorem code_backwards_missing (here : b.lines[last]? = some l) (missing : b.lineCount ≤ first) (how : Anchoring) :
    (⟨⟨first, 0⟩, ⟨last, l.length⟩⟩ : Highlight).code b how = .error ⟨first, b.lineCount⟩ := by
  have present : last < b.lineCount := (List.getElem?_eq_some_iff.mp here).1
  rw [code_span_backwards (Nat.lt_of_lt_of_le present missing)]
  exact Buffer.textOf_missing_last present missing

end Highlight

namespace Target

variable {source : Text}

/-- A target with its lines in order comes to code if its last line is there, and otherwise that is what fails. -/
theorem code_of_ordered (target : Target) {n : Nat} (number : target.last + 1 = n)
    (ordered : ∀ first last, target = lines first last → first ≤ last) (source : Text) (how : Anchoring) :
    let count := (Buffer.ofText source).lineCount
    ((∃ code, target.code source how = .ok code) ↔ n ≤ count) ∧
      (count < n → target.code source how = .error (.pastEnd n count)) ∧
      ∀ why, target.code source how ≠ .error (.outOfRange why) ∧ target.code source how ≠ .error (.notExtracted why) := by
  subst number
  intro count
  by_cases present : target.last < count
  · obtain ⟨block, covers⟩ := exists_covers how present ordered
    have extracted := covers.code_eq
    refine ⟨iff_of_true ⟨_, extracted⟩ present, fun past => absurd present (Nat.not_lt_of_le (Nat.le_of_lt_succ past)), ?_⟩
    simp [extracted]
  · have failed := code_of_pastEnd (Nat.le_of_not_lt present) how
    refine ⟨iff_of_false ?_ present, fun _ => failed, ?_⟩
    · simp [failed]
    · simp [failed]

/-- What selected lines come to is told from their numbers. They are read as they are, whether or not they are blank
    and with all carriage returns; a first line after the last is read backwards, from its start to the end of
    the last. If the last line is not there that is told, and otherwise if the first is not. How blocks are
    anchored makes no difference. -/
theorem whole_lines_verbatim (source : Text) (first last : Nat) :
    let b := Buffer.ofText source
    (∀ how, (lines first last).code source how =
      if b.lineCount ≤ last then .error (.pastEnd (last + 1) b.lineCount)
      else if b.lineCount ≤ first then .error (.notExtracted ⟨first, b.lineCount⟩)
      else if first ≤ last then .ok (Text.join (b.excerpt first last))
      else .ok ('\n' :: Text.unlines (b.excerpt (last + 1) (first - 1)))) ∧
    (Fault.pastEnd (last + 1) b.lineCount).message =
      s!"Line {last + 1} is past the end of the file ({b.lineCount} lines)" ∧
    (Fault.notExtracted ⟨first, b.lineCount⟩).message = "Failed to extract code" ∧
    (Fault.notExtracted ⟨first, b.lineCount⟩).cause =
      some s!"Line {first} out of range (document has {b.lineCount} lines)" := by
  intro b
  refine ⟨?_, rfl, rfl, rfl⟩
  intro how
  by_cases past : b.lineCount ≤ last
  · rw [if_pos past]
    exact code_of_pastEnd past how
  have present : last < b.lineCount := Nat.lt_of_not_le past
  have here : b.lines[last]? = some b.lines[last] := List.getElem?_eq_getElem present
  rw [if_neg past, code_lines_of_line here]
  by_cases missing : b.lineCount ≤ first
  · rw [if_pos missing, Highlight.code_backwards_missing here missing]
    rfl
  rw [if_neg missing]
  by_cases ordered : first ≤ last
  · rw [if_pos ordered, Highlight.code_wholeLines ((b.line_eq_ok_iff _ _).mpr here) ordered]
    rfl
  · rw [if_neg ordered, Highlight.code_backwards here (Nat.lt_of_not_le ordered) (Nat.lt_of_not_le missing)]
    rfl

example : (lines 3 0).code "a\nb\r\n\nc".toList .innermost = .ok "\nb\r\n\n".toList := rfl

end Target
end Offside
