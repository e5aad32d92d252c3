import Offside.Proofs.Extraction
import Offside.Run
import Offside.Session.Rehearsal

namespace Offside

theorem Utf8.encode_unlines (ls : List Text) :
    Utf8.encode (Text.unlines ls) = ls.flatMap fun l => Utf8.encode l ++ [0x0A] := by
  induction ls with
  | nil => rfl
  | cons l more ih =>
    have newline : Utf8.encode ('\n' :: Text.unlines more) = 0x0A :: Utf8.encode (Text.unlines more) := rfl
    have parts : Utf8.encode (l ++ '\n' :: Text.unlines more) =
        Utf8.encode l ++ Utf8.encode ('\n' :: Text.unlines more) := List.flatMap_append
    rw [Text.unlines_cons, parts, newline, ih, List.flatMap_cons, List.append_assoc]
    rfl

theorem Line.indent_of_read {l piece : Text} (read : l = piece ∨ piece = l ++ ['\r']) : indent l = indent piece := by
  rcases read with rfl | rfl
  · rfl
  · exact (indent_append_of_head l (by decide)).symm

namespace Buffer

variable {source : Text} {how : Anchoring} {n first last : Nat} {f : Finding}

theorem not_mem_of_mem_excerpt {l : Text} (member : l ∈ (ofText source).excerpt first last) : '\n' ∉ l :=
  Text.not_mem_of_mem_pieces (List.mem_of_mem_take (List.mem_of_mem_drop member))

theorem length_excerpt_block {b : Buffer} (located : b.locate how n = .ok f) :
    (b.excerpt f.block.first f.block.last).length = f.block.lineCount := by
  obtain ⟨present, finds⟩ := (b.locate_eq_ok_iff_finds how n f).mp located
  have le := f.block.first_le_last
  rw [b.length_excerpt _ (finds.lt_of_mem present f.block.last_mem), Block.lineCount]
  omega

theorem lines_excerpt_code (present : last < (ofText source).lineCount) (le : first ≤ last) :
    Text.lines (Text.join ((ofText source).excerpt first last)) = Text.terminated ((ofText source).excerpt first last) := by
  apply Text.lines_join
  · apply List.ne_nil_of_length_pos
    rw [length_excerpt _ _ present]
    omega
  · exact fun l => not_mem_of_mem_excerpt

theorem lines_code (located : (ofText source).locate how n = .ok f) :
    Text.lines (Text.join ((ofText source).excerpt f.block.first f.block.last)) =
      Text.terminated ((ofText source).excerpt f.block.first f.block.last) := by
  obtain ⟨present, finds⟩ := ((ofText source).locate_eq_ok_iff_finds how n f).mp located
  exact lines_excerpt_code (finds.lt_of_mem present f.block.last_mem) f.block.first_le_last

/-- Framing puts nothing into the code of a block. -/
theorem interactive_code (located : (ofText source).locate how n = .ok f) :
    Prompt.interactive (Text.join ((ofText source).excerpt f.block.first f.block.last)) =
      Text.lines (Text.join ((ofText source).excerpt f.block.first f.block.last)) := by
  obtain ⟨_, finds⟩ := ((ofText source).locate_eq_ok_iff_finds how n f).mp located
  rw [Prompt.interactive, lines_code located]
  -- Only the first line of a block may be one that framing would put something before.
  apply Prompt.frame_eq_self
  intro l member
  rw [Text.tail_terminated, tail_excerpt] at member
  obtain ⟨piece, found, read⟩ := Text.exists_of_mem_terminated member
  obtain ⟨i, below, upTo, here⟩ := exists_of_mem_excerpt found
  rw [Line.indent_of_read read]
  exact finds.deep_of_mem ⟨Nat.le_of_lt below, upTo⟩ below here

/-- Code that is not all blank space has no blank line at all. -/
theorem text_of_mem_excerpt {b : Buffer} (located : b.locate how n = .ok f)
    (text : Text.isBlank (Text.join (b.excerpt f.block.first f.block.last)) = false) {l : Text}
    (member : l ∈ b.excerpt f.block.first f.block.last) : Text.isBlank l = false := by
  obtain ⟨_, finds⟩ := (b.locate_eq_ok_iff_finds how n f).mp located
  by_cases wide : f.block.first < f.block.last
  · obtain ⟨i, least, upTo, here⟩ := exists_of_mem_excerpt member
    exact finds.text_of_mem wide ⟨least, upTo⟩ here
  · have single : (b.excerpt f.block.first f.block.last).length = 1 := by
      have le := f.block.first_le_last
      rw [length_excerpt_block located, Block.lineCount]
      omega
    obtain ⟨m, alone⟩ := List.length_eq_one_iff.mp single
    rw [alone] at member text
    rw [List.mem_singleton.mp member]
    exact text

end Buffer

namespace Job

variable {job : Job} {host : Host} {program : Program} {source code : Text}

theorem run_send (read : host.readText job.file = .ok source) (extracted : job.target.code source job.how = .ok code)
    (text : Text.isBlank code = false) (send : job.send = true) : job.run host = job.typeCode host code := by
  have found : job.code host = .ok code := by
    simp only [Job.code, read, Except.mapError, bind, Except.bind, extracted]
  simp only [run, found, text, send, Bool.false_eq_true, if_false, if_true]

theorem typeCode_eq (found : host.programs job.interpreter = .ok program) :
    let input := Text.unlines (Prompt.interactive code ++ [[]])
    let answer := program.respond Session.arguments input
    job.typeCode host code =
      ⟨if answer.2.isSuccess then .ok (.delivered (Text.lines code).length)
        else .error (.failed job.interpreter answer.2), answer.1, program.complain Session.arguments input⟩ := by
  intro input answer
  have typed : Session.typed ([code].flatMap (Session.deliver job.delay)) = input := by
    rw [List.flatMap_singleton, Session.typed_deliver, ← Text.unlines_concat_nil]
  simp only [typeCode, found, Session.hold, Session.errors, typed]
  split <;> rfl

end Job

/-- The code of a caret's block is typed to the interpreter as one statement, properly closed. Framing puts nothing
    into it, and unless it is blank what the interpreter reads is the lines of the block, none of them blank,
    and one empty line at the end. -/
theorem Job.sends_closed_block (source : Text) (how : Anchoring) (n : Nat)
    (present : n < (Buffer.ofText source).lineCount) :
    ∃ f code, (Buffer.ofText source).locate how n = .ok f ∧ (Target.caret n).code source how = .ok code ∧
      Prompt.interactive code = Text.lines code ∧
      (Text.isBlank code = false →
        let sent := Text.unreturned ((Buffer.ofText source).excerpt f.block.first f.block.last)
        sent.length = f.block.lineCount ∧ (∀ l ∈ sent, Text.isBlank l = false ∧ '\n' ∉ l) ∧
        Utf8.encode (Text.unlines (sent ++ [[]])) = (sent.flatMap fun l => Utf8.encode l ++ [0x0A]) ++ [0x0A] ∧
        ∀ (job : Job) (host : Host) (program : Program), job.target = .caret n → job.how = how →
          job.send = true → host.readText job.file = .ok source →
          host.programs job.interpreter = .ok program →
            let input := Text.unlines (sent ++ [[]])
            let answer := program.respond Session.arguments input
            job.run host =
              ⟨if answer.2.isSuccess then .ok (.delivered sent.length)
                else .error (.failed job.interpreter answer.2), answer.1, program.complain Session.arguments input⟩) := by
  obtain ⟨f, located, finds⟩ := Buffer.exists_locate how present
  have extracted := Target.code_caret located
  have framed := Buffer.interactive_code located
  refine ⟨f, _, located, extracted, framed, ?_⟩
  intro text sent
  have nonblank {l : Text} := Buffer.text_of_mem_excerpt (l := l) located text
  have lines : Text.lines (Text.join ((Buffer.ofText source).excerpt f.block.first f.block.last)) = sent := by
    rw [Buffer.lines_code located]
    apply Text.terminated_eq_unreturned
    rintro l member rfl
    cases nonblank member
  refine ⟨?_, ?_, ?_, ?_⟩
  · rw [Text.length_unreturned, Buffer.length_excerpt_block located]
  · intro l member
    rw [← lines, Buffer.lines_code located] at member
    obtain ⟨piece, found, read⟩ := Text.exists_of_mem_terminated member
    exact ⟨by rw [Text.isBlank_of_read read, nonblank found],
      Text.not_mem_of_read read (Buffer.not_mem_of_mem_excerpt found)⟩
  · rw [Utf8.encode_unlines, List.flatMap_append]
    rfl
  · intro job host program target anchored send read started input answer
    subst anchored
    rw [job.run_send read (by rw [target]; exact extracted) text send, typeCode_eq started, framed, lines]

/-- The carriage return after the last line of the code is typed with it. -/
theorem Job.sends_closed_block_returns :
    let source : Text := "class A:\r\n  def f():\r\n    x\r\n\r\n".toList
    let host : Host := ⟨fun _ => .ok (Utf8.encode source), Rehearsal.programs⟩
    let job : Job := ⟨[], .caret 2, .innermost, true, "python".toList, 0⟩
    2 < (Buffer.ofText source).lineCount ∧ host.readText job.file = .ok source ∧
      (job.run host).output = "args: -i -q\n  def f():\n    x\r\n\n".toList := by
  intro source host job
  have read : host.readText job.file = .ok source := by
    simp [Host.readText, host, Utf8.decode?_encode, bind, Except.bind, pure, Except.pure]
  obtain ⟨f, code, located, extracted, _, sends⟩ := sends_closed_block source .innermost 2 (by decide)
  have found : (Buffer.ofText source).locate .innermost 2 = .ok ⟨.header, ⟨1, 2, by decide⟩⟩ := rfl
  obtain rfl := Except.ok.inj (found.symm.trans located)
  have whole : (Target.caret 2).code source .innermost = .ok "  def f():\r\n    x\r".toList := rfl
  obtain rfl := Except.ok.inj (whole.symm.trans extracted)
  have ran := (sends (by decide)).2.2.2 job host (Rehearsal.echo (.exited 0)) rfl rfl rfl read rfl
  refine ⟨by decide, read, ?_⟩
  rw [ran]
  rfl

end Offside
