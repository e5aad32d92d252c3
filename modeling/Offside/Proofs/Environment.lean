import Offside.CommandLine.Report
import Offside.Proofs.Runs

/-!
Which options are given can be told from the arguments (`given`), and reading finds these and no others
(`Reads.has`). An option that is given decides its setting, and a report depends on the environment through two
settings and through what is started (`Options.report_congr`). So arguments that give the options shut out the
variables, unless the interpreter looks at them itself.
-/

namespace Offside

theorem Job.run_rename {job : Job} (prints : job.send = false) (name : Text) (host : Host) :
    ({ job with interpreter := name } : Job).run host = job.run host := by
  have same : ({ job with interpreter := name } : Job).code host = job.code host := rfl
  unfold run
  rw [same]
  simp only [prints, Bool.false_eq_true, if_false]

theorem Settings.interpreter_of_isSome {option : Option Text} (given : option.isSome) (value value' : Option Text) :
    Settings.interpreter option value = Settings.interpreter option value' := by
  obtain ⟨name, rfl⟩ := Option.isSome_iff_exists.mp given
  rfl

theorem Settings.delay_of_isSome {option : Option Nat} (given : option.isSome) (value value' : Option Text) :
    Settings.delay option value = Settings.delay option value' := by
  obtain ⟨ms, rfl⟩ := Option.isSome_iff_exists.mp given
  rfl

namespace CommandLine

open Utf8 (Bytes)

def Token.means (m : Meaning) : Token → Bool
  | .named name _ => meaning? name = some m
  | _ => false

/-- Whether an option with this meaning stands among the arguments, before the two dashes that only words come
    after. -/
def given (m : Meaning) (arguments : List Bytes) : Bool :=
  (arguments.takeWhile (Token.ofBytes · ≠ .wordsOnly)).any fun argument => (Token.ofBytes argument).means m

theorem given_nil (m : Meaning) : given m [] = false := rfl

theorem given_wordsOnly {argument : Bytes} (m : Meaning) (rest : List Bytes) (token : Token.ofBytes argument = .wordsOnly) :
    given m (argument :: rest) = false := by
  simp [given, token]

theorem given_cons {argument : Bytes} {t : Token} (m : Meaning) (rest : List Bytes) (token : Token.ofBytes argument = t)
    (other : t ≠ .wordsOnly) : given m (argument :: rest) = (t.means m || given m rest) := by
  simp [given, token, other]

def Seen.has (seen : Seen) : Meaning → Bool
  | .valued .line => seen.line.isSome
  | .valued .select => seen.select.isSome
  | .valued .interpreter => seen.interpreter.isSome
  | .valued .delay => seen.delay.isSome
  | .switch .send => seen.send
  | .switch .innermost => seen.innermost
  | .switch .verbose => seen.verbose
  | .stop _ => false

variable {seen seen' : Seen} {m : Meaning}

theorem bind_eq_ok {ε α β : Type} {x : Except ε α} {f : α → Except ε β} {r : β} (ok : x >>= f = .ok r) :
    ∃ a, x = .ok a ∧ f a = .ok r := by
  cases x with
  | error e => cases ok
  | ok a => exact ⟨a, rfl, ok⟩

theorem once_eq_ok {α : Type} {field r : Option α} {value : Except Stop α} (set : once field value = .ok r) :
    ∃ a, value = .ok a ∧ r = some a := by
  unfold once at set
  split at set
  · cases set
  · cases value with
    | error stop => cases set
    | ok a => exact ⟨a, rfl, (Except.ok.inj set).symm⟩

theorem Seen.has_setFile {bytes : Bytes} (set : seen.setFile bytes = .ok seen') (m : Meaning) :
    seen'.has m = seen.has m := by
  obtain ⟨file, _, made⟩ := bind_eq_ok set
  obtain rfl := Except.ok.inj made
  rfl

theorem Seen.has_setValue {bytes : Bytes} {v : Valued} (set : seen.setValue bytes v = .ok seen') (m : Meaning) :
    seen'.has m = (decide (.valued v = m) || seen.has m) := by
  cases v <;>
    · obtain ⟨value, read, made⟩ := bind_eq_ok set
      obtain rfl := Except.ok.inj made
      obtain ⟨a, _, rfl⟩ := once_eq_ok read
      rcases m with (_ | _ | _ | _) | (_ | _ | _) | _ <;> simp [has]

theorem Seen.has_setSwitch {s : Switch} (set : seen.setSwitch s = .ok seen') (m : Meaning) :
    seen'.has m = (decide (.switch s = m) || seen.has m) := by
  cases s <;>
    · simp only [setSwitch] at set
      split at set
      · cases set
      · obtain rfl := Except.ok.inj set
        rcases m with (_ | _ | _ | _) | (_ | _ | _) | _ <;> simp [has]

theorem Seen.has_setFiles {files : List Bytes} (set : files.foldlM Seen.setFile seen = .ok seen') (m : Meaning) :
    seen'.has m = seen.has m := by
  induction files generalizing seen with
  | nil =>
    obtain rfl := Except.ok.inj set
    rfl
  | cons bytes files ih =>
    rw [List.foldlM_cons] at set
    obtain ⟨next, first, later⟩ := bind_eq_ok set
    rw [ih later, has_setFile first]

/-- How arguments are read to their end, one step for each form that the first of them may have. -/
inductive Reads : Seen → List Bytes → Seen → Prop
  | done {seen : Seen} : Reads seen [] seen
  | word {seen next final : Seen} {argument bytes : Bytes} {rest : List Bytes} : Token.ofBytes argument = .word bytes →
      seen.setFile bytes = .ok next → Reads next rest final → Reads seen (argument :: rest) final
  | wordsOnly {seen final : Seen} {argument : Bytes} {rest : List Bytes} : Token.ofBytes argument = .wordsOnly →
      rest.foldlM Seen.setFile seen = .ok final → Reads seen (argument :: rest) final
  | switch {seen next final : Seen} {argument name : Bytes} {s : Switch} {rest : List Bytes} :
      Token.ofBytes argument = .named name none → meaning? name = some (.switch s) →
      seen.setSwitch s = .ok next → Reads next rest final → Reads seen (argument :: rest) final
  | equals {seen next final : Seen} {argument name value : Bytes} {v : Valued} {rest : List Bytes} :
      Token.ofBytes argument = .named name (some value) → meaning? name = some (.valued v) →
      seen.setValue value v = .ok next → Reads next rest final → Reads seen (argument :: rest) final
  | apart {seen next final : Seen} {argument following name value : Bytes} {v : Valued} {rest : List Bytes} :
      Token.ofBytes argument = .named name none → meaning? name = some (.valued v) →
      Token.ofBytes following = .word value → seen.setValue value v = .ok next → Reads next rest final →
      Reads seen (argument :: following :: rest) final

theorem reads_of_read {arguments : List Bytes} (done : read seen arguments = .ok seen') : Reads seen arguments seen' := by
  fun_induction read seen arguments with
  | case1 seen =>
    obtain rfl := Except.ok.inj done
    exact .done
  | case2 seen argument rest bytes token ih =>
    obtain ⟨next, set, done⟩ := bind_eq_ok done
    exact .word token set (ih next done)
  | case3 seen argument rest token => exact .wordsOnly token done
  | case6 seen argument rest name switch meaning token ih =>
    obtain ⟨next, set, done⟩ := bind_eq_ok done
    exact .switch token meaning set (ih next done)
  | case7 seen argument rest name valued value meaning token ih =>
    obtain ⟨next, set, done⟩ := bind_eq_ok done
    exact .equals token meaning set (ih next done)
  | case9 seen argument name valued meaning following rest value word token ih =>
    obtain ⟨next, set, done⟩ := bind_eq_ok done
    exact .apart token meaning word set (ih next done)
  | case4 => cases done
  | case5 => cases done
  | case8 => cases done
  | case10 => cases done
  | case11 => cases done

/-- What has been read at the end is what was read before and what is given. -/
theorem Reads.has {arguments : List Bytes} (reads : Reads seen arguments seen') (m : Meaning) :
    seen'.has m = (seen.has m || given m arguments) := by
  induction reads with
  | done => rw [given_nil, Bool.or_false]
  | @word seen next final argument bytes rest token set _ ih =>
    rw [ih, Seen.has_setFile set, given_cons m rest token (by simp)]
    rfl
  | @wordsOnly seen final argument rest token set =>
    rw [Seen.has_setFiles set, given_wordsOnly m rest token, Bool.or_false]
  | @switch seen next final argument name s rest token meaning set _ ih =>
    rw [ih, Seen.has_setSwitch set, given_cons m rest token (by simp)]
    simp [Token.means, meaning, Bool.or_assoc, Bool.or_left_comm]
  | @equals seen next final argument name value v rest token meaning set _ ih =>
    rw [ih, Seen.has_setValue set, given_cons m rest token (by simp)]
    simp [Token.means, meaning, Bool.or_assoc, Bool.or_left_comm]
  | @apart seen next final argument following name value v rest token meaning word set _ ih =>
    rw [ih, Seen.has_setValue set, given_cons m _ token (by simp), given_cons m rest word (by simp)]
    simp [Token.means, meaning, Bool.or_assoc, Bool.or_left_comm]

theorem finish_has {o : Options} (done : seen.finish = .ok o) :
    o.send = seen.has (.switch .send) ∧ o.interpreter.isSome = seen.has (.valued .interpreter) ∧
      o.delay.isSome = seen.has (.valued .delay) := by
  unfold Seen.finish at done
  split at done
  · obtain rfl := Except.ok.inj done
    exact ⟨rfl, rfl, rfl⟩
  · obtain rfl := Except.ok.inj done
    exact ⟨rfl, rfl, rfl⟩
  · cases done

theorem parse_has {arguments : List Bytes} {o : Options} (accepted : parse arguments = .ok o) :
    o.send = given (.switch .send) arguments ∧ o.interpreter.isSome = given (.valued .interpreter) arguments ∧
      o.delay.isSome = given (.valued .delay) arguments := by
  obtain ⟨seen, done, finished⟩ := bind_eq_ok accepted
  obtain ⟨send, interpreter, delay⟩ := finish_has finished
  rw [(reads_of_read done).has] at send interpreter delay
  exact ⟨send, interpreter, delay⟩

variable {o : Options} {env env' : Environment}

theorem outcomeText_rename {job : Job} (prints : job.send = false) (name : Text) (outcome : Outcome) :
    outcomeText { job with interpreter := name } outcome = outcomeText job outcome := by
  have untold (name : Text) (lines : Nat) : outcomeText { job with interpreter := name } (.delivered lines) = [] :=
    if_neg (by simp [prints])
  cases outcome with
  | nothingToRun => rfl
  | delivered lines => exact (untold name lines).trans (untold job.interpreter lines).symm

theorem runReport_rename {job : Job} (prints : job.send = false) (name : Text) (ran : Ran) :
    runReport { job with interpreter := name } ran = runReport job ran := by
  simp only [runReport, outcomeText_rename prints]

/-- In environments that lead to the same pause, the jobs differ in the interpreter at most. -/
theorem Options.job_eq_map
    (delay : Settings.delay o.delay (env.text? delayVariable) = Settings.delay o.delay (env'.text? delayVariable)) :
    o.job env' = (o.job env).map fun job =>
      { job with interpreter := Settings.interpreter o.interpreter (env'.text? interpreterVariable) } := by
  unfold Options.job
  rw [delay]
  cases o.target with
  | error fault => rfl
  | ok target => cases Settings.delay o.delay (env'.text? delayVariable) <;> rfl

theorem Options.of_job_eq_ok {job : Job} (made : o.job env = .ok job) :
    job.send = o.send ∧ job.interpreter = Settings.interpreter o.interpreter (env.text? interpreterVariable) := by
  obtain ⟨target, _, made⟩ := bind_eq_ok made
  obtain ⟨ms, _, made⟩ := bind_eq_ok made
  obtain rfl := Except.ok.inj made
  exact ⟨rfl, rfl⟩

/-- The environment reaches a report by the pause and, if code is sent, by the interpreter's name and by what is
    started by that name. -/
theorem Options.report_congr {machine machine' : Machine}
    (delay : Settings.delay o.delay (env.text? delayVariable) = Settings.delay o.delay (env'.text? delayVariable))
    (interpreter : o.send = true → Settings.interpreter o.interpreter (env.text? interpreterVariable) =
      Settings.interpreter o.interpreter (env'.text? interpreterVariable))
    (contents : machine'.contents = machine.contents)
    (programs : ∀ job, o.job env = .ok job → job.send = true →
      machine'.programs env' job.interpreter = machine.programs env job.interpreter) :
    o.report env machine = o.report env' machine' := by
  have renamed := Options.job_eq_map delay
  cases made : o.job env with
  | error fault =>
    rw [made] at renamed
    simp only [Options.report, made, renamed, Except.map]
  | ok job =>
    rw [made] at renamed
    obtain ⟨send, named⟩ := Options.of_job_eq_ok made
    have ran : job.run (machine'.host env') = job.run (machine.host env) := by
      apply Job.run_congr contents
      intro _ _ _ sends
      exact programs job made sends
    cases sends : o.send with
    | true =>
      have same : o.job env' = .ok job := by
        rw [renamed, ← interpreter sends, ← named]
        rfl
      simp only [Options.report, made, same, ran]
    | false =>
      rw [sends] at send
      simp only [Options.report, made, renamed, Except.map, Job.run_rename send, runReport_rename send, ran]

/-- The environments are the same but for these variables. -/
def Environment.SameBut (unseen : List String) (env env' : Environment) : Prop :=
  ∀ name, name ∉ unseen → env name = env' name

/-- The program of this name takes no notice of these variables: in environments that are the same but for them it
    does the same, if it starts at all. -/
def Machine.Blind (machine : Machine) (unseen : List String) (name : Text) : Prop :=
  ∀ env env', env.SameBut unseen env' → machine.programs env name = machine.programs env' name

theorem report_congr_of_given {arguments : List Bytes} {machine machine' : Machine}
    (delay : given (.valued .delay) arguments)
    (interpreter : given (.valued .interpreter) arguments ∨ ¬ given (.switch .send) arguments)
    (contents : machine'.contents = machine.contents)
    (programs : ∀ o name, parse arguments = .ok o → o.send = true → o.interpreter = some name →
      machine'.programs env' name = machine.programs env name) (wording : Stop → Text) :
    report arguments env machine wording = report arguments env' machine' wording := by
  unfold report
  cases accepted : parse arguments with
  | error stop => rfl
  | ok o =>
    obtain ⟨send, named, paused⟩ := parse_has accepted
    have given (sends : o.send = true) : o.interpreter.isSome := by
      rcases interpreter with interpreter | prints
      · exact named.trans interpreter
      · exact absurd (send.symm.trans sends) prints
    apply Options.report_congr (Settings.delay_of_isSome (paused.trans delay) _ _)
      (fun sends => Settings.interpreter_of_isSome (given sends) _ _) contents
    intro job made sends
    obtain ⟨asked, called⟩ := Options.of_job_eq_ok made
    rw [asked] at sends
    obtain ⟨name, some⟩ := Option.isSome_iff_exists.mp (given sends)
    rw [called, some]
    exact programs o name accepted sends some

/-- Options that are given shut out their variables. If the pause is given, and the interpreter too unless nothing
    is to be sent, the environment makes a difference only as the one that the interpreter is started in. If
    that takes no notice of the two variables, the program exits with the same code and prints the same, to
    both outputs, in environments that are the same but for them. -/
theorem report_shuts_out_variables {arguments : List Bytes} (delay : given (.valued .delay) arguments)
    (interpreter : given (.valued .interpreter) arguments ∨ ¬ given (.switch .send) arguments)
    (machine : Machine) (wording : Stop → Text) :
    (∀ env env', report arguments env machine wording = report arguments env' (machine.host env) wording) ∧
    ∀ env env', env.SameBut [interpreterVariable, delayVariable] env' →
      (∀ o name, parse arguments = .ok o → o.send = true → o.interpreter = some name →
        machine.Blind [interpreterVariable, delayVariable] name) →
      report arguments env machine wording = report arguments env' machine wording := by
  refine ⟨?_, ?_⟩
  · intro env env'
    refine report_congr_of_given delay interpreter ?_ ?_ wording
    · rfl
    · intro o name accepted sends named
      rfl
  · intro env env' same blind
    apply report_congr_of_given delay interpreter rfl
    intro o name accepted sends named
    exact (blind o name accepted sends named env env' same).symm

/-- Code is typed to an interpreter where one variable is no numeral and one is not even text. -/
theorem report_shuts_out_variables_sent :
    let arguments := ["script.py", "--line-delay-ms=007", "--interpreter", "fakepy", "--send", "--line=1"].map bytesOf
    let machine : Machine := ⟨fun _ => .ok (Utf8.encode "é = 1".toList), fun _ => Rehearsal.programs⟩
    let odd : Environment := fun name =>
      if name = delayVariable then some (bytesOf "soon") else if name = interpreterVariable then some [0xFF] else none
    given (.valued .delay) arguments ∧ given (.valued .interpreter) arguments ∧
      odd.SameBut [interpreterVariable, delayVariable] (fun _ => none) ∧
      machine.Blind [interpreterVariable, delayVariable] "fakepy".toList ∧
      report arguments odd machine = ⟨0, "args: -i -q\né = 1\n\n".toList, "Sent 1 line(s) to fakepy\n".toList⟩ := by
  intro arguments machine odd
  have delay : given (.valued .delay) arguments := by decide
  have interpreter : given (.valued .interpreter) arguments := by decide
  have same : odd.SameBut [interpreterVariable, delayVariable] (fun _ => none) := by
    intro name other
    simp only [List.mem_cons, List.not_mem_nil, or_false, not_or] at other
    simp only [odd, other.1, other.2, if_false]
  have blind (name : Text) : machine.Blind [interpreterVariable, delayVariable] name := fun _ _ _ => rfl
  refine ⟨delay, interpreter, same, blind _, ?_⟩
  rw [(report_shuts_out_variables delay (.inl interpreter) machine plainWording).2 odd _ same fun _ name _ _ _ => blind name]
  decide +kernel

/-- An interpreter that does look at a variable makes a difference that no option shuts out. -/
example :
    let arguments := ["script.py", "--line-delay-ms=0", "--interpreter=python3", "--send", "--line=1"].map bytesOf
    let curious (env : Environment) : Program :=
      ⟨fun _ _ => ([], .exited 0), fun _ _ => (env.text? interpreterVariable).getD []⟩
    let machine : Machine := ⟨fun _ => .ok (bytesOf "x"), fun env _ => .ok (curious env)⟩
    let other : Environment := fun name => if name = interpreterVariable then some (bytesOf "other") else none
    report arguments other machine ≠ report arguments (fun _ => none) machine := by
  decide +kernel

/-- Without the option a variable that is no numeral makes the program fail, though nothing is to be sent. -/
example :
    let env : Environment := fun name => if name = delayVariable then some (bytesOf "soon") else none
    (report (["script.py", "--line=1"].map bytesOf) env ⟨fun _ => .ok [], fun _ => Rehearsal.programs⟩).exit = 1 := by
  decide +kernel

end CommandLine
end Offside
