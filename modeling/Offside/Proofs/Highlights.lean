import Offside.Proofs.Offsets

namespace Offside

theorem Place.exists_lt_of_ne {p q : Place} (other : p ≠ q) :
    ∃ first last, (first = p ∧ last = q ∨ first = q ∧ last = p) ∧ first < last := by
  rcases lt_or_eq_or_gt p q with lt | same | gt
  · exact ⟨p, q, .inl ⟨rfl, rfl⟩, lt⟩
  · exact absurd same other
  · exact ⟨q, p, .inr ⟨rfl, rfl⟩, gt⟩

theorem Span.between_of_lt {p q : Place} (lt : p < q) : between p q = ⟨p, q⟩ := if_neg (Place.not_lt_of_lt lt)

namespace Buffer

variable {b : Buffer} {p q : Place} {l m : Text}

theorem offset_le_of_lt (lt : p < q) (hp : b.lines[p.line]? = some l) (hq : b.lines[q.line]? = some m) :
    b.offset p ≤ b.offset q := by
  rcases (Place.lt_iff p q).mp lt with above | ⟨same, before⟩
  · exact Nat.le_of_lt (offset_lt_of_line_lt above hp hq)
  · rw [offset_eq hp, offset_eq (same ▸ hp), same]
    omega

theorem length_take_offset (here : b.lines[p.line]? = some l) : (b.text.take (b.offset p)).length = b.offset p := by
  have column : (Text.join [l.take p.column]).length = min p.column l.length := List.length_take
  rw [take_offset here, Text.join_append _ (List.cons_ne_nil _ _), List.length_append, column, offset_eq here]

theorem take_offset_append (lt : p < q) (hp : b.lines[p.line]? = some l) (hq : b.lines[q.line]? = some m) :
    b.text.take (b.offset p) ++ (b.text.take (b.offset q)).drop (b.offset p) = b.text.take (b.offset q) := by
  have above : (b.text.take (b.offset q)).take (b.offset p) = b.text.take (b.offset p) := by
    rw [List.take_take, Nat.min_eq_left (offset_le_of_lt lt hp hq)]
  rw [← above, List.take_append_drop]

/-- What comes of reading from one place up to another: the piece of the text between their two offsets, or if a line
    is missing the first that is. -/
inductive Reads (b : Buffer) (p q : Place) : Except OutOfRange Text → Prop
  | text (above t below : Text) : p.line < b.lineCount → q.line < b.lineCount → b.text = above ++ t ++ below →
      above.length = b.offset p → (above ++ t).length = b.offset q → Reads b p q (.ok t)
  | missingFirst : b.lineCount ≤ p.line → Reads b p q (.error ⟨p.line, b.lineCount⟩)
  | missingLast : p.line < b.lineCount → b.lineCount ≤ q.line → Reads b p q (.error ⟨q.line, b.lineCount⟩)

theorem Reads.unique {result result' : Except OutOfRange Text} (reads : b.Reads p q result) (reads' : b.Reads p q result') :
    result = result' := by
  cases reads with
  | text above t below first last parts start stop =>
    cases reads' with
    | text above' t' below' _ _ parts' start' stop' =>
      -- Both pieces end at the offset of the last place and begin at that of the first.
      have ends : above ++ t = above' ++ t' :=
        List.append_inj_left (parts.symm.trans parts') (stop.trans stop'.symm)
      rw [List.append_inj_right ends (start.trans start'.symm)]
    | missingFirst missing => exact absurd first (Nat.not_lt_of_le missing)
    | missingLast _ missing => exact absurd last (Nat.not_lt_of_le missing)
  | missingFirst missing =>
    cases reads' with
    | missingFirst _ => rfl
    | text _ _ _ first => exact absurd first (Nat.not_lt_of_le missing)
    | missingLast first _ => exact absurd first (Nat.not_lt_of_le missing)
  | missingLast first missing =>
    cases reads' with
    | missingLast _ _ => rfl
    | text _ _ _ _ last => exact absurd last (Nat.not_lt_of_le missing)
    | missingFirst missing => exact absurd first (Nat.not_lt_of_le missing)

theorem reads_textOf (lt : p < q) : b.Reads p q (b.textOf ⟨p, q⟩) := by
  by_cases first : p.line < b.lineCount
  · by_cases last : q.line < b.lineCount
    · have hp := List.getElem?_eq_getElem first
      have hq := List.getElem?_eq_getElem last
      have upTo := take_offset_append lt hp hq
      have between : b.textOf ⟨p, q⟩ = .ok ((b.text.take (b.offset q)).drop (b.offset p)) := textOf_eq_between hp hq
      rw [between]
      refine .text _ _ (b.text.drop (b.offset q)) first last ?_ (length_take_offset hp) ?_
      · rw [upTo, List.take_append_drop]
      · rw [upTo, length_take_offset hq]
    · rw [textOf_missing_last first (Nat.le_of_not_lt last)]
      exact .missingLast first (Nat.le_of_not_lt last)
  · rw [textOf_missing_first (Nat.le_of_not_lt first)]
    exact .missingFirst (Nat.le_of_not_lt first)

theorem textOf_eq_iff_reads (lt : p < q) (result : Except OutOfRange Text) :
    b.textOf ⟨p, q⟩ = result ↔ b.Reads p q result := by
  constructor
  · rintro rfl
    exact reads_textOf lt
  · exact (reads_textOf lt).unique

end Buffer

namespace Highlight

variable {p q first last : Place}

theorem code_of_ends (ends : first = p ∧ last = q ∨ first = q ∧ last = p) (lt : first < last) (wide : p ≠ q) (b : Buffer)
    (how : Anchoring) : (⟨p, q⟩ : Highlight).code b how = b.textOf ⟨first, last⟩ := by
  have ordered : Span.between p q = ⟨first, last⟩ := by
    rcases ends with ⟨rfl, rfl⟩ | ⟨rfl, rfl⟩
    · exact Span.between_of_lt lt
    · exact (Span.between_comm _ _).trans (Span.between_of_lt lt)
  rw [code_of_ne wide, span, ordered]

/-- What is highlighted is read as it is, from whichever end it was begun and however blocks are anchored: it is what
    lies between the first of the two places and the last. Where nothing is highlighted the block of the caret's
    line is read, wherever in the line the caret is. -/
theorem code_either_way (b : Buffer) (p q : Place) :
    (p ≠ q → ∃ first last, (first = p ∧ last = q ∨ first = q ∧ last = p) ∧ first < last ∧
      (∀ how how', (⟨q, p⟩ : Highlight).code b how' = (⟨p, q⟩ : Highlight).code b how) ∧
      ∀ how result, (⟨p, q⟩ : Highlight).code b how = result ↔ b.Reads first last result) ∧
    ∀ how column, (⟨⟨p.line, column⟩, ⟨p.line, column⟩⟩ : Highlight).code b how = b.blockText how p.line := by
  refine ⟨?_, fun how column => code_caret b how ⟨p.line, column⟩⟩
  intro wide
  obtain ⟨first, last, ends, lt⟩ := Place.exists_lt_of_ne wide
  refine ⟨first, last, ends, lt, ?_, ?_⟩
  · intro how how'
    rw [code_of_ends ends.symm lt wide.symm, code_of_ends ends lt wide]
  · intro how result
    rw [code_of_ends ends lt wide, Buffer.textOf_eq_iff_reads lt]

/-- Between two places past the end of a header nothing is read, from either end; for a caret there its block is. -/
theorem code_either_way_pastEnd :
    let b := Buffer.ofText "if é:\n  x\n".toList
    (⟨0, 9⟩ : Place) ≠ ⟨0, 7⟩ ∧
      (∀ how, (⟨⟨0, 9⟩, ⟨0, 7⟩⟩ : Highlight).code b how = .ok []) ∧
      (∀ how, (⟨⟨0, 7⟩, ⟨0, 9⟩⟩ : Highlight).code b how = .ok []) ∧
      (⟨⟨0, 9⟩, ⟨0, 9⟩⟩ : Highlight).code b .outermost = .ok "if é:\n  x".toList := by
  intro b
  have wide : (⟨0, 9⟩ : Place) ≠ ⟨0, 7⟩ := by decide
  obtain ⟨highlighted, caret⟩ := code_either_way b ⟨0, 9⟩ ⟨0, 7⟩
  obtain ⟨first, last, ends, lt, turned, reads⟩ := highlighted wide
  obtain ⟨rfl, rfl⟩ | ⟨rfl, rfl⟩ := ends
  · exact absurd lt (by decide)
  have none (how : Anchoring) : (⟨⟨0, 9⟩, ⟨0, 7⟩⟩ : Highlight).code b how = .ok [] :=
    (reads how _).mpr (.text "if é:".toList [] "\n  x\n".toList (by decide) (by decide) rfl rfl rfl)
  refine ⟨wide, none, fun how => (turned how how).trans (none how), ?_⟩
  rw [caret]
  rfl

end Highlight
end Offside
