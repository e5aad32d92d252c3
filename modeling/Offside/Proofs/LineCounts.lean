import Offside.Proofs.Framing
import Offside.Proofs.LineEndings

/-!
A run reports how many lines its code is read as, while a target covers lines that are cut at newlines. The two
counts agree but for one line: an empty line at the end of the code is cut but not read. A located block never
ends in one.
-/

namespace Offside

namespace Text

theorem length_terminated_concat (above : List Text) (l : Text) :
    (terminated (above ++ [l])).length = above.length + if l = [] then 0 else 1 := by
  rw [terminated_concat, List.length_append, List.length_map]
  split <;> rfl

theorem count_newline_unlines {ls : List Text} (clean : ∀ l ∈ ls, '\n' ∉ l) : (unlines ls).count '\n' = ls.length := by
  have counted := length_pieces (unlines ls)
  rw [pieces_unlines clean, List.length_append, List.length_singleton] at counted
  omega

end Text

namespace Prompt

/-- How many empty lines are put into lines: one before each that would run into the statement above it. -/
def insertions (ls : List Text) : Nat := (List.range ls.length).countP fun i => Collides ls i

theorem insertions_concat (above : List Text) (l : Text) :
    insertions (above ++ [l]) = insertions above + (opening (above.getLast?.any (Line.isBody 0)) l).length := by
  -- Whether a line collides is settled by the lines down to it.
  have unchanged : (List.range above.length).countP (fun i => Collides (above ++ [l]) i) = insertions above := by
    refine List.countP_congr ?_
    intro i member
    simp only [collides_append above (List.mem_range.mp member)]
  rw [insertions, List.length_append, List.length_singleton, List.range_succ, List.countP_append, unchanged]
  by_cases new : (above.getLast?.any (Line.isBody 0) && begins l) = true
  · simp [collides_concat, opening, new]
  · simp [collides_concat, opening, new]

theorem length_frame (ls : List Text) : (frame ls).length = ls.length + insertions ls := by
  induction ls using List.reverseRecOn with
  | nil => rfl
  | append_singleton above l ih =>
    rw [frame_concat, insertions_concat]
    simp only [List.length_append, ih]
    omega

theorem count_newline_sent (code : Text) :
    (Text.unlines (interactive code ++ [[]])).count '\n' = (Text.lines code).length + insertions (Text.lines code) + 1 := by
  have clean : ∀ l ∈ interactive code, '\n' ∉ l := fun l => not_mem_of_mem_interactive
  rw [Text.unlines_concat_nil, List.count_append, Text.count_newline_unlines clean, interactive, length_frame]
  rfl

end Prompt

namespace Buffer

variable {source : Text} {how : Anchoring} {first last n : Nat} {l : Text} {f : Finding}

/-- The code of lines is read as these lines, but for an empty one at the end. -/
theorem length_lines_code (here : (ofText source).lines[last]? = some l) (le : first ≤ last) :
    (Text.lines (Text.join ((ofText source).excerpt first last))).length = last - first + if l = [] then 0 else 1 := by
  have present : last < (ofText source).lines.length := (List.getElem?_eq_some_iff.mp here).1
  have above : (((ofText source).lines.take last).drop first).length = last - first := by
    rw [List.length_drop, List.length_take, Nat.min_eq_left (Nat.le_of_lt present)]
  rw [lines_excerpt_code present le, excerpt_eq_concat here le, Text.length_terminated_concat, above]

theorem length_lines_block (located : (ofText source).locate how n = .ok f)
    (text : Text.isBlank (Text.join ((ofText source).excerpt f.block.first f.block.last)) = false) :
    (Text.lines (Text.join ((ofText source).excerpt f.block.first f.block.last))).length = f.block.lineCount := by
  obtain ⟨present, finds⟩ := ((ofText source).locate_eq_ok_iff_finds how n f).mp located
  obtain ⟨l, here⟩ : ∃ l, (ofText source).lines[f.block.last]? = some l :=
    ⟨_, List.getElem?_eq_getElem (finds.lt_of_mem present f.block.last_mem)⟩
  have last : l ≠ [] := by
    rintro rfl
    have member : [] ∈ (ofText source).excerpt f.block.first f.block.last := by
      rw [excerpt_eq_concat here f.block.first_le_last]
      exact List.mem_append_right _ (List.mem_singleton_self _)
    cases text_of_mem_excerpt located text member
  rw [length_lines_code here f.block.first_le_last, if_neg last, Block.lineCount]

end Buffer

namespace Target

variable {source code : Text} {how : Anchoring} {t : Target}

theorem last_lt_of_code (extracted : t.code source how = .ok code) : t.last < (Buffer.ofText source).lineCount := by
  by_contra past
  rw [code_of_pastEnd (Nat.le_of_not_lt past)] at extracted
  cases extracted

theorem length_lines_caret {n : Nat} (extracted : (caret n).code source how = .ok code) (text : Text.isBlank code = false) :
    ∃ f, (Buffer.ofText source).locate how n = .ok f ∧ (Text.lines code).length = f.block.lineCount := by
  obtain ⟨f, located, _⟩ := Buffer.exists_locate how (last_lt_of_code extracted)
  obtain rfl := Except.ok.inj ((code_caret located).symm.trans extracted)
  exact ⟨f, located, Buffer.length_lines_block located text⟩

theorem length_lines_lines {first last : Nat} (extracted : (lines first last).code source how = .ok code)
    (le : first ≤ last) : ∃ l, (Buffer.ofText source).line last = .ok l ∧
      (Text.lines code).length = last - first + if l = [] then 0 else 1 := by
  have present : last < (Buffer.ofText source).lineCount := last_lt_of_code extracted
  have here := List.getElem?_eq_getElem present
  obtain rfl := Except.ok.inj ((code_lines le present how).symm.trans extracted)
  exact ⟨_, (Buffer.line_eq_ok_iff _ _ _).mpr here, Buffer.length_lines_code here le⟩

end Target

namespace Job

variable {job : Job} {host : Host} {n : Nat}

/-- Code that is delivered has text in it and is counted by its lines; an interpreter it was sent to has succeeded. -/
theorem exists_code_of_delivered (delivered : (job.run host).outcome = .ok (.delivered n)) :
    ∃ code, job.Extracts host code ∧ Text.isBlank code = false ∧ (Text.lines code).length = n ∧
      (job.send = true → ∃ program, host.programs job.interpreter = .ok program ∧
        program.respond Session.arguments (Text.unlines (Prompt.interactive code ++ [[]])) =
          ((job.run host).output, .exited 0)) := by
  have ends := ends_run job host
  generalize job.run host = ran at delivered ends
  cases ends with
  | printed extracts text prints =>
    cases delivered
    refine ⟨_, extracts, text, rfl, ?_⟩
    intro send
    rw [prints] at send
    cases send
  | typed extracts text _ started answered _ =>
    cases delivered
    rw [← Text.unlines_concat_nil] at answered
    exact ⟨_, extracts, text, rfl, fun _ => ⟨_, started, answered⟩⟩
  | _ => cases delivered

/-- The number of lines that a run reports is that of the lines selected and of the lines sent. For a caret it is the
    number of lines of its block; for lines it is their number, without the last of them if that is empty. What
    the interpreter has to read has so many newlines, one more for each empty line that framing puts in, and one
    for the empty line at the end. -/
theorem delivered_counts_lines (source : Text) (job : Job) (host : Host) (n : Nat)
    (held : host.contents job.file = .ok (Utf8.encode source))
    (delivered : (job.run host).outcome = .ok (.delivered n)) :
    (∀ i, job.target = .caret i →
      ∃ f, (Buffer.ofText source).locate job.how i = .ok f ∧ n = f.block.lineCount) ∧
    (∀ first last, job.target = .lines first last → first ≤ last →
      ∃ l, (Buffer.ofText source).line last = .ok l ∧ n + (if l = [] then 1 else 0) = last - first + 1) ∧
    (job.send = true → ∃ code program input, job.target.code source job.how = .ok code ∧
      host.programs job.interpreter = .ok program ∧
      program.respond Session.arguments input = ((job.run host).output, .exited 0) ∧ job.Types host input ∧
      let inserted := Prompt.insertions (Text.lines code)
      (Prompt.interactive code).length = n + inserted ∧ input.count '\n' = n + inserted + 1) := by
  obtain ⟨code, extracts, text, rfl, answers⟩ := exists_code_of_delivered delivered
  have extracted : job.target.code source job.how = .ok code :=
    (code_of_held held).symm.trans ((code_eq_ok_iff code).mpr extracts)
  refine ⟨?_, ?_, ?_⟩
  · intro i target
    rw [target] at extracted
    exact Target.length_lines_caret extracted text
  · intro first last target le
    rw [target] at extracted
    obtain ⟨l, here, count⟩ := Target.length_lines_lines extracted le
    refine ⟨l, here, ?_⟩
    rw [count]
    split <;> rfl
  · intro send
    obtain ⟨program, started, answered⟩ := answers send
    exact ⟨code, program, _, extracted, started, answered, types_of_extracts extracts text send,
      Prompt.length_frame (Text.lines code), Prompt.count_newline_sent code⟩

/-- A function, its call and the empty line at the end of the file: three lines and one that is put in. -/
theorem delivered_counts_lines_call :
    let source : Text := "def f():\r\n  é\nf()\n".toList
    let host : Host := ⟨fun _ => .ok (Utf8.encode source), Rehearsal.programs⟩
    let job : Job := ⟨[], .lines 0 3, .outermost, true, "python".toList, 0⟩
    let caret : Job := { job with target := .caret 1 }
    host.contents [] = .ok (Utf8.encode source) ∧ (job.run host).outcome = .ok (.delivered 3) ∧
      (∃ l, (Buffer.ofText source).line 3 = .ok l ∧ 3 + (if l = [] then 1 else 0) = 3 - 0 + 1) ∧
      (∃ input, job.Types host input ∧ input.count '\n' = 3 + 1 + 1) ∧
      (caret.run host).outcome = .ok (.delivered 2) ∧
      ∃ f, (Buffer.ofText source).locate .outermost 1 = .ok f ∧ 2 = f.block.lineCount := by
  intro source host job caret
  have delivered : (job.run host).outcome = .ok (.delivered 3) := rfl
  have delivered' : (caret.run host).outcome = .ok (.delivered 2) := rfl
  obtain ⟨_, whole, sent⟩ := delivered_counts_lines source job host 3 rfl delivered
  obtain ⟨block, _, _⟩ := delivered_counts_lines source caret host 2 rfl delivered'
  obtain ⟨code, _, input, extracted, _, _, types, _, count⟩ := sent rfl
  have selected : (Target.lines 0 3).code source .outermost = .ok "def f():\r\n  é\nf()\n".toList := rfl
  obtain rfl := Except.ok.inj (selected.symm.trans extracted)
  have inserted : Prompt.insertions (Text.lines "def f():\r\n  é\nf()\n".toList) = 1 := by decide
  rw [inserted] at count
  exact ⟨rfl, delivered, whole 0 3 rfl (by decide), ⟨input, types, count⟩, delivered', block 1 rfl⟩

end Job
end Offside
