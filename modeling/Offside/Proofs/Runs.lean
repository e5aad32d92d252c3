import Offside.Proofs.Delivery

/-!
A run ends in one of eight ways (`Job.Ends`), told from what the file holds, what the target extracts from it
and what the interpreter answers. The target only matters by the code that it extracts, so a caret and the
lines of its block lead to the same run.
-/

namespace Offside

open Utf8 (Bytes)

namespace Host

variable {host : Host} {file : Bytes}

theorem readText_eq_ok_iff (t : Text) : host.readText file = .ok t ↔ host.contents file = .ok (Utf8.encode t) := by
  unfold readText
  cases host.contents file with
  | error why => simp [bind, Except.bind]
  | ok bytes =>
    simp only [bind, Except.bind, Except.ok.injEq, ← Utf8.decode?_eq_some_iff]
    cases Utf8.decode? bytes <;> simp [pure, Except.pure, throw, throwThe, MonadExceptOf.throw]

theorem readText_missing {why : Unreadable} (failed : host.contents file = .error why) :
    host.readText file = .error why := by
  simp only [readText, failed, bind, Except.bind]

theorem readText_notText {bytes : Bytes} (held : host.contents file = .ok bytes) (other : ∀ t, bytes ≠ Utf8.encode t) :
    host.readText file = .error .notText := by
  have none : Utf8.decode? bytes = none := by
    rw [Option.eq_none_iff_forall_ne_some]
    intro t decoded
    exact other t ((Utf8.decode?_eq_some_iff bytes t).mp decoded)
  simp only [readText, held, bind, Except.bind, none]
  rfl

end Host

namespace Job

def Extracts (job : Job) (host : Host) (code : Text) : Prop :=
  ∃ source, host.contents job.file = .ok (Utf8.encode source) ∧ job.target.code source job.how = .ok code

/-- How a job may end, and what has been printed then. -/
inductive Ends (job : Job) (host : Host) : Ran → Prop
  | unreadable {why : Unreadable} : host.contents job.file = .error why →
      Ends job host ⟨.error (.unreadable job.file why), [], []⟩
  | notText {bytes : Bytes} : host.contents job.file = .ok bytes → (∀ t, bytes ≠ Utf8.encode t) →
      Ends job host ⟨.error (.unreadable job.file .notText), [], []⟩
  | notExtracted {source : Text} {fault : Fault} : host.contents job.file = .ok (Utf8.encode source) →
      job.target.code source job.how = .error fault → Ends job host ⟨.error fault, [], []⟩
  | blank {code : Text} : job.Extracts host code → Text.isBlank code = true →
      Ends job host ⟨.ok .nothingToRun, [], []⟩
  | printed {code : Text} : job.Extracts host code → Text.isBlank code = false → job.send = false →
      Ends job host ⟨.ok (.delivered (Text.lines code).length), code ++ ['\n'], []⟩
  | notStarted {code : Text} {why : Unstarted} : job.Extracts host code → Text.isBlank code = false →
      job.send = true → host.programs job.interpreter = .error why →
      Ends job host ⟨.error (.notStarted job.interpreter why), [], []⟩
  | typed {code : Text} {program : Program} {output errors : Text} : job.Extracts host code →
      Text.isBlank code = false → job.send = true → host.programs job.interpreter = .ok program →
      program.respond Session.arguments (Text.unlines (Prompt.interactive code) ++ ['\n']) = (output, .exited 0) →
      program.complain Session.arguments (Text.unlines (Prompt.interactive code) ++ ['\n']) = errors →
      Ends job host ⟨.ok (.delivered (Text.lines code).length), output, errors⟩
  | failed {code : Text} {program : Program} {output errors : Text} {ending : Ending} : job.Extracts host code →
      Text.isBlank code = false → job.send = true → host.programs job.interpreter = .ok program →
      program.respond Session.arguments (Text.unlines (Prompt.interactive code) ++ ['\n']) = (output, ending) →
      program.complain Session.arguments (Text.unlines (Prompt.interactive code) ++ ['\n']) = errors →
      ending ≠ .exited 0 → Ends job host ⟨.error (.failed job.interpreter ending), output, errors⟩

variable {job : Job} {host : Host} {source code : Text}

theorem code_of_held (held : host.contents job.file = .ok (Utf8.encode source)) :
    job.code host = job.target.code source job.how := by
  simp only [Job.code, (Host.readText_eq_ok_iff source).mpr held, Except.mapError, bind, Except.bind]

theorem code_eq_ok_iff (code : Text) : job.code host = .ok code ↔ job.Extracts host code := by
  constructor
  · intro found
    cases read : host.readText job.file with
    | error why => simp [Job.code, read, Except.mapError, bind, Except.bind] at found
    | ok source =>
      have held := (Host.readText_eq_ok_iff source).mp read
      exact ⟨source, held, (code_of_held held).symm.trans found⟩
  · rintro ⟨source, held, extracted⟩
    exact (code_of_held held).trans extracted

theorem code_of_unread {why : Unreadable} (failed : host.readText job.file = .error why) :
    job.code host = .error (.unreadable job.file why) := by
  simp only [Job.code, failed, Except.mapError, bind, Except.bind]

theorem run_of_error {fault : Fault} (stopped : job.code host = .error fault) :
    job.run host = ⟨.error fault, [], []⟩ := by
  simp only [run, stopped]

theorem run_of_extracts (extracts : job.Extracts host code) (text : Text.isBlank code = false) (send : job.send = true) :
    job.run host = job.typeCode host code := by
  obtain ⟨source, held, extracted⟩ := extracts
  exact run_send ((Host.readText_eq_ok_iff source).mpr held) extracted text send

theorem typeCode_of_answer {program : Program} {output errors : Text} {ending : Ending}
    (started : host.programs job.interpreter = .ok program)
    (answered : program.respond Session.arguments (Text.unlines (Prompt.interactive code) ++ ['\n']) = (output, ending))
    (complained : program.complain Session.arguments (Text.unlines (Prompt.interactive code) ++ ['\n']) = errors) :
    job.typeCode host code =
      ⟨if ending.isSuccess then .ok (.delivered (Text.lines code).length)
        else .error (.failed job.interpreter ending), output, errors⟩ := by
  rw [typeCode_eq started, Text.unlines_concat_nil, answered, complained]

theorem Ends.run_eq {ran : Ran} (ends : job.Ends host ran) : job.run host = ran := by
  cases ends with
  | unreadable failed => exact run_of_error (code_of_unread (Host.readText_missing failed))
  | notText held other => exact run_of_error (code_of_unread (Host.readText_notText held other))
  | notExtracted held failed => exact run_of_error ((code_of_held held).trans failed)
  | blank extracts blank => simp only [run, (code_eq_ok_iff _).mpr extracts, blank, if_true]
  | printed extracts text prints =>
    simp only [run, (code_eq_ok_iff _).mpr extracts, text, prints, Bool.false_eq_true, if_false]
  | notStarted extracts text send missing =>
    rw [run_of_extracts extracts text send]
    simp only [typeCode, missing]
  | typed extracts text send started answered complained =>
    rw [run_of_extracts extracts text send, typeCode_of_answer started answered complained]
    rfl
  | failed extracts text send started answered complained fails =>
    rw [run_of_extracts extracts text send, typeCode_of_answer started answered complained]
    simp [Ending.isSuccess, fails]

theorem exists_ends (job : Job) (host : Host) : ∃ ran, job.Ends host ran := by
  cases held : host.contents job.file with
  | error why => exact ⟨_, .unreadable held⟩
  | ok bytes =>
    by_cases other : ∀ t, bytes ≠ Utf8.encode t
    · exact ⟨_, .notText held other⟩
    obtain ⟨source, rfl⟩ : ∃ source, bytes = Utf8.encode source := by simpa using other
    cases extracted : job.target.code source job.how with
    | error fault => exact ⟨_, .notExtracted held extracted⟩
    | ok code =>
      have extracts : job.Extracts host code := ⟨source, held, extracted⟩
      cases text : Text.isBlank code with
      | true => exact ⟨_, .blank extracts text⟩
      | false =>
        cases send : job.send with
        | false => exact ⟨_, .printed extracts text send⟩
        | true =>
          cases started : host.programs job.interpreter with
          | error why => exact ⟨_, .notStarted extracts text send started⟩
          | ok program =>
            cases answered : program.respond Session.arguments (Text.unlines (Prompt.interactive code) ++ ['\n']) with
            | mk output ending =>
              by_cases success : ending = .exited 0
              · exact ⟨_, .typed extracts text send started (success ▸ answered) rfl⟩
              · exact ⟨_, .failed extracts text send started answered rfl success⟩

theorem run_eq_iff_ends (ran : Ran) : job.run host = ran ↔ job.Ends host ran := by
  constructor
  · rintro rfl
    obtain ⟨ran, ends⟩ := exists_ends job host
    exact ends.run_eq ▸ ends
  · exact Ends.run_eq

theorem ends_run (job : Job) (host : Host) : job.Ends host (job.run host) := (run_eq_iff_ends _).mp rfl

/-- Of the programs a run depends on the interpreter alone, and on that only if there is text to send. -/
theorem run_congr {host' : Host} (contents : host'.contents = host.contents)
    (started : ∀ code, job.Extracts host code → Text.isBlank code = false → job.send = true →
      host'.programs job.interpreter = host.programs job.interpreter) : job.run host' = job.run host := by
  have same : job.code host' = job.code host := by simp only [Job.code, Host.readText, contents]
  cases found : job.code host with
  | error fault => rw [run_of_error found, run_of_error (same.trans found)]
  | ok code =>
    simp only [run, same, found]
    cases text : Text.isBlank code with
    | true => rfl
    | false =>
      cases send : job.send with
      | false => rfl
      | true => simp only [typeCode, started code ((code_eq_ok_iff code).mp found) text send]

theorem run_retarget {target target' : Target} {how how' : Anchoring}
    (same : ({ job with target := target', how := how' } : Job).code host = ({ job with target, how } : Job).code host) :
    ({ job with target := target', how := how' } : Job).run host = ({ job with target, how } : Job).run host := by
  simp only [run, same]
  rfl

/-- To ask for the lines of a caret's block is to ask for the caret's block: both extract the lines of the block as
    they are, and lead to the same run. -/
theorem caret_agrees_with_lines (source : Text) (how : Anchoring) (n : Nat)
    (present : n < (Buffer.ofText source).lineCount) :
    ∃ f, (Buffer.ofText source).locate how n = .ok f ∧ f.block.last < (Buffer.ofText source).lineCount ∧
      let code := Text.join ((Buffer.ofText source).excerpt f.block.first f.block.last)
      let selected : Target := .lines f.block.first f.block.last
      (Target.caret n).code source how = .ok code ∧ (Buffer.ofText source).blockText how n = .ok code ∧
      ∀ how', selected.code source how' = .ok code ∧
        ∀ (job : Job) (host : Host), host.contents job.file = .ok (Utf8.encode source) →
          ({ job with target := selected, how := how' } : Job).run host =
            ({ job with target := .caret n, how } : Job).run host := by
  obtain ⟨f, located, finds⟩ := Buffer.exists_locate how present
  have ends : f.block.last < (Buffer.ofText source).lineCount := finds.lt_of_mem present f.block.last_mem
  have caret := Target.code_caret located
  have lines := Target.code_lines f.block.first_le_last ends
  refine ⟨f, located, ends, caret, Buffer.blockText_eq located, ?_⟩
  intro how'
  refine ⟨lines how', ?_⟩
  intro job host held
  have code (target : Target) (how : Anchoring) :
      ({ job with target, how } : Job).code host = target.code source how :=
    @code_of_held { job with target, how } host source held
  apply run_retarget
  rw [code, code, lines how', caret]

/-- The lines of an empty line are highlighted from a place to that same place. -/
theorem caret_agrees_with_lines_empty :
    let source : Text := "é = 1\n\ndef f():\n    ü\n".toList
    let host : Host := ⟨fun _ => .ok (Utf8.encode source), Rehearsal.programs⟩
    let job : Job := ⟨[], .caret 1, .innermost, true, "python".toList, 0⟩
    1 < (Buffer.ofText source).lineCount ∧ host.contents [] = .ok (Utf8.encode source) ∧
      (Target.lines 1 1).code source .outermost = .ok [] ∧
      ({ job with target := .lines 1 1, how := .outermost } : Job).run host = job.run host := by
  intro source host job
  obtain ⟨f, located, _, _, _, agrees⟩ := caret_agrees_with_lines source .innermost 1 (by decide)
  have found : (Buffer.ofText source).locate .innermost 1 = .ok ⟨.plain, ⟨1, 1, by decide⟩⟩ := rfl
  obtain rfl := Except.ok.inj (found.symm.trans located)
  obtain ⟨code, runs⟩ := agrees .outermost
  exact ⟨by decide, rfl, code, runs job host rfl⟩

end Job
end Offside
