import Offside.Proofs.Nesting
import Offside.Target

namespace Offside

open Block (headedBy Under under_iff)

namespace Buffer

variable {b : Buffer} {first last n : Nat} {l : Text}

theorem clip_cons (start stop : Nat) (l : Text) {more : List Text} (some : more ≠ []) :
    clip start stop (l :: more) = l.drop start :: clip 0 stop more := by
  cases more with
  | nil => exact absurd rfl some
  | cons next rest => rfl

theorem clip_concat (stop : Nat) (more : List Text) (l : Text) :
    clip 0 stop (more ++ [l]) = more ++ [l.take stop] := by
  induction more with
  | nil => simp [clip]
  | cons next more ih =>
    rw [List.cons_append, clip_cons 0 stop next (by simp), ih, List.drop_zero, List.cons_append]

theorem excerpt_eq_concat (here : b.lines[last]? = some l) (le : first ≤ last) :
    b.excerpt first last = (b.lines.take last).drop first ++ [l] := by
  have length : first ≤ (b.lines.take last).length := by
    have present := (List.getElem?_eq_some_iff.mp here).1
    rw [List.length_take]
    omega
  rw [excerpt, List.take_add_one, here, Option.toList_some, List.drop_append_of_le_length length]

theorem exists_of_mem_excerpt (member : l ∈ b.excerpt first last) :
    ∃ i, first ≤ i ∧ i ≤ last ∧ b.lines[i]? = some l := by
  obtain ⟨i, read⟩ := List.mem_iff_getElem?.mp member
  rw [excerpt, List.getElem?_drop, List.getElem?_take] at read
  split at read
  · next upTo => exact ⟨first + i, Nat.le_add_right .., Nat.le_of_lt_succ upTo, read⟩
  · cases read

theorem tail_excerpt (b : Buffer) (first last : Nat) : (b.excerpt first last).tail = b.excerpt (first + 1) last := by
  rw [excerpt, excerpt, List.tail_drop]

theorem textOf_eq_join {s : Span} {m : Text} (begins : b.lines[s.first.line]? = some l)
    (ends : b.lines[s.last.line]? = some m) :
    b.textOf s = .ok (Text.join (clip s.first.column s.last.column (b.excerpt s.first.line s.last.line))) := by
  simp only [textOf, (b.line_eq_ok_iff _ _).mpr begins, (b.line_eq_ok_iff _ _).mpr ends, bind, Except.bind, pure,
    Except.pure]
  rfl

theorem textOf_whole (begins : first < b.lineCount) (here : b.line last = .ok l) (le : first ≤ last) :
    b.textOf ⟨⟨first, 0⟩, ⟨last, l.length⟩⟩ = .ok (Text.join (b.excerpt first last)) := by
  have read := (b.line_eq_ok_iff _ _).mp here
  rw [textOf_eq_join (List.getElem?_eq_getElem begins) read, excerpt_eq_concat read le, clip_concat, List.take_length]

end Buffer

theorem Block.span_eq {b : Buffer} {block : Block} {l : Text} (here : b.line block.last = .ok l) :
    block.span b = .ok ⟨⟨block.first, 0⟩, ⟨block.last, l.length⟩⟩ := by
  have ordered : ¬ (⟨block.last, l.length⟩ : Place) < ⟨block.first, 0⟩ := by
    have le := block.first_le_last
    simp only [Place.lt_iff]
    omega
  simp only [span, here, bind, Except.bind, pure, Except.pure, Span.between, ordered, if_false]

namespace Buffer

variable {b : Buffer} {how : Anchoring} {n : Nat} {f : Finding}

theorem blockText_eq (located : b.locate how n = .ok f) :
    b.blockText how n = .ok (Text.join (b.excerpt f.block.first f.block.last)) := by
  obtain ⟨present, finds⟩ := (b.locate_eq_ok_iff_finds how n f).mp located
  have begins : f.block.first < b.lineCount := finds.lt_of_mem present f.block.first_mem
  have ends : f.block.last < b.lineCount := finds.lt_of_mem present f.block.last_mem
  have here : b.line f.block.last = .ok b.lines[f.block.last] :=
    (b.line_eq_ok_iff _ _).mpr (List.getElem?_eq_getElem ends)
  have spanned : f.block.span b = .ok _ := Block.span_eq here
  simp only [blockText, located, spanned, bind, Except.bind]
  exact textOf_whole begins here f.block.first_le_last

end Buffer

theorem Highlight.code_caret (b : Buffer) (how : Anchoring) (p : Place) : (caret p).code b how = b.blockText how p.line :=
  if_pos ((isEmpty_iff _).mpr rfl)

theorem Target.code_caret {source : Text} {how : Anchoring} {n : Nat} {f : Finding}
    (located : (Buffer.ofText source).locate how n = .ok f) :
    (caret n).code source how =
      .ok (Text.join ((Buffer.ofText source).excerpt f.block.first f.block.last)) := by
  have present := ((Buffer.ofText source).locate_eq_ok_iff_finds how n f).mp located |>.1
  have extracted := Highlight.code_caret (Buffer.ofText source) how ⟨n, 0⟩
  rw [Buffer.blockText_eq located] at extracted
  simp only [code, last, Nat.not_le_of_lt present, if_false, highlight, pure, Except.pure, bind, Except.bind,
    extracted, Except.mapError]

theorem Anchoring.find_nil (how : Anchoring) (lines : List Text) (n : Nat) :
    how.find lines n [] = ⟨.plain, .single n⟩ := by
  have noHeader : Line.isHeader [] = false := Line.isHeader_of_isBlank rfl
  simp [find, anchorsItself, noHeader, Line.indent]

theorem Highlight.code_of_ne {h : Highlight} (wide : h.anchor ≠ h.active) (b : Buffer) (how : Anchoring) :
    h.code b how = b.textOf h.span :=
  if_neg fun empty => wide ((isEmpty_iff h).mp empty)

/-- From an empty line to itself nothing is highlighted, and then the block of that line is the line. -/
theorem Highlight.code_wholeLines {b : Buffer} {first last : Nat} {l : Text} (here : b.line last = .ok l)
    (le : first ≤ last) (how : Anchoring) :
    (⟨⟨first, 0⟩, ⟨last, l.length⟩⟩ : Highlight).code b how = .ok (Text.join (b.excerpt first last)) := by
  have read := (b.line_eq_ok_iff _ _).mp here
  have present : last < b.lineCount := (List.getElem?_eq_some_iff.mp read).1
  by_cases empty : (⟨first, 0⟩ : Place) = ⟨last, l.length⟩
  · obtain ⟨rfl, nothing⟩ := Place.mk.inj empty
    obtain rfl : l = [] := List.length_eq_zero_iff.mp nothing.symm
    have located : b.locate how first = .ok ⟨.plain, .single first⟩ :=
      (b.locate_eq_ok_iff how first _).mpr ⟨[], read, how.find_nil b.lines first⟩
    exact (code_caret b how ⟨first, 0⟩).trans (Buffer.blockText_eq located)
  · have ordered : ¬ (⟨last, l.length⟩ : Place) < ⟨first, 0⟩ := by
      simp only [Place.lt_iff]
      omega
    rw [code_of_ne empty, span, Span.between, if_neg ordered]
    exact Buffer.textOf_whole (Nat.lt_of_le_of_lt le present) here le

theorem Target.code_of_pastEnd {source : Text} {t : Target} (past : (Buffer.ofText source).lineCount ≤ t.last)
    (how : Anchoring) : t.code source how = .error (.pastEnd (t.last + 1) (Buffer.ofText source).lineCount) :=
  if_pos past

theorem Target.code_lines_of_line {source : Text} {last : Nat} {l : Text}
    (here : (Buffer.ofText source).lines[last]? = some l) (first : Nat) (how : Anchoring) :
    (lines first last).code source how =
      ((⟨⟨first, 0⟩, ⟨last, l.length⟩⟩ : Highlight).code (Buffer.ofText source) how).mapError .notExtracted := by
  have present : last < (Buffer.ofText source).lineCount := (List.getElem?_eq_some_iff.mp here).1
  have found : (Buffer.ofText source).line last = .ok l := (Buffer.line_eq_ok_iff _ _ _).mpr here
  simp only [code, Target.last, Nat.not_le_of_lt present, if_false, highlight, found, bind, Except.bind, pure,
    Except.pure, Except.mapError]

theorem Target.code_lines {source : Text} {first last : Nat} (le : first ≤ last)
    (present : last < (Buffer.ofText source).lineCount) (how : Anchoring) :
    (lines first last).code source how = .ok (Text.join ((Buffer.ofText source).excerpt first last)) := by
  have here := List.getElem?_eq_getElem present
  rw [code_lines_of_line here, Highlight.code_wholeLines ((Buffer.line_eq_ok_iff _ _ _).mpr here) le]
  rfl

/-! ### The lines that a target covers -/

namespace Target

/-- The lines that a target covers: those of the block of its caret, or its own. -/
inductive Covers (b : Buffer) (how : Anchoring) : Target → Block → Prop
  | caret {n : Nat} {f : Finding} : b.locate how n = .ok f → Covers b how (caret n) f.block
  | lines (block : Block) : block.last < b.lineCount → Covers b how (lines block.first block.last) block

variable {b : Buffer} {how : Anchoring} {t : Target} {block : Block}

theorem exists_covers (how : Anchoring) (present : t.last < b.lineCount)
    (ordered : ∀ first last, t = lines first last → first ≤ last) : ∃ block, t.Covers b how block := by
  cases t with
  | caret n =>
    obtain ⟨f, located, _⟩ := Buffer.exists_locate how present
    exact ⟨f.block, .caret located⟩
  | lines first last =>
    let block : Block := ⟨first, last, ordered first last rfl⟩
    exact ⟨block, .lines block present⟩

theorem covers_lines_iff {first last : Nat} :
    (lines first last).Covers b how block ↔ block.first = first ∧ block.last = last ∧ last < b.lineCount := by
  constructor
  · intro covers
    generalize target : lines first last = t at covers
    cases covers with
    | caret _ => cases target
    | lines _ present =>
      obtain ⟨rfl, rfl⟩ := lines.inj target
      exact ⟨rfl, rfl, present⟩
  · rintro ⟨rfl, rfl, present⟩
    exact .lines block present

theorem Covers.last_lt (covers : t.Covers b how block) : block.last < b.lineCount := by
  cases covers with
  | caret located =>
    obtain ⟨present, finds⟩ := (b.locate_eq_ok_iff_finds how _ _).mp located
    exact finds.lt_of_mem present (Block.last_mem _)
  | lines _ present => exact present

theorem Covers.code_eq {source : Text} (covers : t.Covers (Buffer.ofText source) how block) :
    t.code source how = .ok (Text.join ((Buffer.ofText source).excerpt block.first block.last)) := by
  cases covers with
  | caret located => exact code_caret located
  | lines _ present => exact code_lines block.first_le_last present how

end Target

namespace Anchoring

variable {how : Anchoring} {lines : List Text} {n i : Nat} {f : Finding} {l : Text}

theorem Finds.under_of_mem (finds : Finds how lines n f) (inside : i ∈ f.block) (below : f.block.first < i) :
    Under lines f.block.first i := by
  cases finds with
  | header nearest => exact Block.under_of_mem_headedBy nearest.1.present inside (Nat.ne_of_gt below)
  | plain _ _ => exact absurd (Nat.lt_of_lt_of_le below inside.2) (Nat.lt_irrefl _)
  | orphan _ _ => exact absurd (Nat.lt_of_lt_of_le below inside.2) (Nat.lt_irrefl _)

theorem Finds.deep_of_mem (finds : Finds how lines n f) (inside : i ∈ f.block) (below : f.block.first < i)
    (here : lines[i]? = some l) : 0 < Line.indent l := by
  have deeper := (finds.under_of_mem inside below).depth_lt
  rw [Block.depthAt_eq here] at deeper
  exact Nat.zero_lt_of_lt deeper

theorem Finds.text_of_mem (finds : Finds how lines n f) (wide : f.block.first < f.block.last)
    (inside : i ∈ f.block) (here : lines[i]? = some l) : Text.isBlank l = false := by
  rcases Nat.lt_or_eq_of_le inside.1 with below | rfl
  · obtain ⟨m, read, text, _⟩ := (under_iff lines _ i).mp (finds.under_of_mem inside below)
    obtain rfl := Option.some.inj (read.symm.trans here)
    exact text
  · cases finds with
    | @header s nearest =>
      have read : lines[s]? = some l := here
      exact Line.isBlank_of_isHeader ((headerAt_eq read).symm.trans nearest.1.header)
    | plain _ _ => exact absurd wide (Nat.lt_irrefl _)
    | orphan _ _ => exact absurd wide (Nat.lt_irrefl _)

end Anchoring
end Offside
