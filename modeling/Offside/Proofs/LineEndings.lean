import Offside.Proofs.Layout
import Offside.Proofs.Runs

/-!
A carriage return before each newline is dropped again where code is read as lines, but the last line of the code
has no newline of its own: if it is not the last line of the file, its carriage return stays in the code and is
sent. So a run that sends does the same for both kinds of line endings if its code reaches to the end of the
file, and otherwise what it sends differs in its last line (`run_withReturns`).
-/

namespace Offside

namespace Text

theorem returned_append_cons (above : List Text) (l : Text) (below : List Text) :
    returned (above ++ l :: below) =
      above.map (· ++ ['\r']) ++ (if below = [] then l else l ++ ['\r']) :: returned below := by
  induction above with
  | nil => cases below <;> rfl
  | cons piece above ih =>
    rw [List.cons_append, returned_cons_of_ne_nil piece (by simp), ih]
    rfl

theorem take_succ_returned {ls : List Text} {n : Nat} {l : Text} (here : ls[n]? = some l) :
    (returned ls).take (n + 1) = (ls.take n).map (· ++ ['\r']) ++ [if n + 1 = ls.length then l else l ++ ['\r']] := by
  obtain ⟨present, rfl⟩ := List.getElem?_eq_some_iff.mp here
  have parts : ls = ls.take n ++ ls[n] :: ls.drop (n + 1) := by simp
  have length : ((ls.take n).map (· ++ ['\r'])).length = n := by simp; omega
  have whole : ls.drop (n + 1) = [] ↔ n + 1 = ls.length := by rw [List.drop_eq_nil_iff]; omega
  have cut := returned_append_cons (ls.take n) ls[n] (ls.drop (n + 1))
  rw [← parts] at cut
  rw [cut, List.take_append, length, List.take_of_length_le (by omega), Nat.add_sub_cancel_left, List.take_succ_cons,
    List.take_zero]
  simp only [whole]

theorem terminated_of_clean {above : List Text} (clean : ∀ l ∈ above, '\r' ∉ l) (l : Text) :
    terminated (above ++ [l]) = above ++ if l = [] then [] else [l] := by
  have same : above.map dropReturn = above.map id := List.map_congr_left fun l member => dropReturn_of_not_mem (clean l member)
  rw [terminated_concat, same, List.map_id]

theorem terminated_map_return (above : List Text) (l : Text) :
    terminated (above.map (· ++ ['\r']) ++ [l]) = above ++ if l = [] then [] else [l] := by
  have same : dropReturn ∘ (· ++ ['\r']) = id := funext dropReturn_append_return
  rw [terminated_concat, List.map_map, same, List.map_id]

theorem after?_append_return {word : Text} (clean : '\r' ∉ word) (t : Text) :
    after? word (t ++ ['\r']) = (after? word t).map (· ++ ['\r']) := by
  fun_induction after? word t with
  | case1 t => rfl
  | case2 c word =>
    have other : c ≠ '\r' := fun same => clean (by simp [same])
    simp [after?, other]
  | case3 c word t ih => simpa [after?] using ih fun member => clean (List.mem_cons_of_mem _ member)
  | case4 c word d t differ => simp [after?, differ]

theorem endsWord_append_return (t : Text) : endsWord (t ++ ['\r']) = endsWord t := by
  cases t with
  | nil => decide +kernel
  | cons c t => rfl

theorem head?_append_return (t : Text) :
    (t ++ ['\r']).head?.any isSpace = (t.head?.any isSpace || t.isEmpty) := by
  cases t with
  | nil => decide
  | cons c t => simp

end Text

namespace Prompt

theorem colonFollows_append_return (t : Text) : colonFollows (t ++ ['\r']) = colonFollows t := by
  unfold colonFollows
  cases text : Text.isBlank t with
  | true =>
    have blank : Text.isBlank (t ++ ['\r']) := (Text.isBlank_append_return t).trans text
    rw [(Text.trimStart_eq_nil_iff _).mpr blank, (Text.trimStart_eq_nil_iff _).mpr text]
  | false =>
    have some : Text.trimStart t ≠ [] := by
      rw [Ne, Text.trimStart_eq_nil_iff, text]
      simp
    rw [Text.trimStart_append text, List.head?_append, Option.or_of_isSome (List.isSome_head?.mpr some)]

/-- A carriage return after it makes a clause of the bare word `elif`, and makes no other difference. -/
theorem resumes_append_return (l : Text) : resumes (l ++ ['\r']) = (resumes l || l = ['e', 'l', 'i', 'f']) := by
  have bare : decide (l = ['e', 'l', 'i', 'f']) = (Text.after? ['e', 'l', 'i', 'f'] l).any (·.isEmpty) := by
    cases found : Text.after? ['e', 'l', 'i', 'f'] l with
    | none =>
      have other : l ≠ ['e', 'l', 'i', 'f'] := by
        rintro rfl
        cases found
      simp [other]
    | some t =>
      rw [(Text.after?_eq_some_iff _ _ _).mp found]
      cases t <;> simp
  unfold resumes
  rw [Text.after?_append_return (by decide), Text.after?_append_return (by decide), Text.after?_append_return (by decide),
    Text.after?_append_return (by decide), bare]
  simp only [Option.any_map, colonFollows_append_return, Text.endsWord_append_return, Text.head?_append_return]
  cases Text.after? ['e', 'l', 'i', 'f'] l with
  | none => simp
  | some t => simp only [Option.any_some]; ac_rfl

theorem opening_append_return (inBody : Bool) (l : Text) :
    opening inBody (l ++ ['\r']) = if l = ['e', 'l', 'i', 'f'] then [] else opening inBody l := by
  have depth : Line.indent (l ++ ['\r']) = Line.indent l := Line.indent_append_of_head l (by decide)
  unfold opening begins
  rw [Text.isBlank_append_return, depth, resumes_append_return]
  by_cases bare : l = ['e', 'l', 'i', 'f'] <;> simp [bare]

end Prompt

namespace Buffer

variable {source : Text} {first last : Nat} {l : Text}

theorem lines_withReturns (source : Text) : (ofText (Text.withReturns source)).lines = Text.returned (ofText source).lines :=
  Text.pieces_withReturns source

theorem lineCount_withReturns (source : Text) :
    (ofText (Text.withReturns source)).lineCount = (ofText source).lineCount := by
  rw [lineCount, lines_withReturns, Text.length_returned, lineCount]

/-- What a line of the text has become: only the last line of all got no carriage return. -/
def ended (source : Text) (n : Nat) (l : Text) : Text :=
  if n + 1 = (ofText source).lineCount then l else l ++ ['\r']

theorem isBlank_ended (source : Text) (n : Nat) (l : Text) : Text.isBlank (ended source n l) = Text.isBlank l := by
  unfold ended
  split
  · rfl
  · exact Text.isBlank_append_return l

theorem excerpt_withReturns (here : (ofText source).lines[last]? = some l) (le : first ≤ last) :
    (ofText (Text.withReturns source)).excerpt first last =
      (((ofText source).lines.take last).drop first).map (· ++ ['\r']) ++ [ended source last l] := by
  have present : last < (ofText source).lines.length := (List.getElem?_eq_some_iff.mp here).1
  have length : first ≤ (((ofText source).lines.take last).map (· ++ ['\r'])).length := by
    rw [List.length_map, List.length_take]
    omega
  rw [excerpt, lines_withReturns, Text.take_succ_returned here, List.drop_append_of_le_length length, List.map_drop]
  rfl

theorem lines_code_eq (clean : '\r' ∉ source) (here : (ofText source).lines[last]? = some l) (le : first ≤ last) :
    Text.lines (Text.join ((ofText source).excerpt first last)) =
      ((ofText source).lines.take last).drop first ++ if l = [] then [] else [l] := by
  rw [lines_excerpt_code (List.getElem?_eq_some_iff.mp here).1 le, excerpt_eq_concat here le]
  apply Text.terminated_of_clean
  intro piece member inside
  apply clean
  rw [← Text.join_pieces source]
  exact Text.mem_join (List.mem_of_mem_take (List.mem_of_mem_drop member)) inside

theorem lines_code_withReturns (here : (ofText source).lines[last]? = some l) (le : first ≤ last) :
    Text.lines (Text.join ((ofText (Text.withReturns source)).excerpt first last)) =
      ((ofText source).lines.take last).drop first ++ if ended source last l = [] then [] else [ended source last l] := by
  have present : last < (ofText (Text.withReturns source)).lineCount := by
    rw [lineCount_withReturns]
    exact (List.getElem?_eq_some_iff.mp here).1
  rw [lines_excerpt_code present le, excerpt_withReturns here le, Text.terminated_map_return]

theorem isBlank_code_withReturns (here : (ofText source).lines[last]? = some l) (le : first ≤ last) :
    Text.isBlank (Text.join ((ofText (Text.withReturns source)).excerpt first last)) =
      Text.isBlank (Text.join ((ofText source).excerpt first last)) := by
  have same : Text.isBlank ∘ (· ++ ['\r']) = Text.isBlank := funext Text.isBlank_append_return
  rw [Text.isBlank_join, Text.isBlank_join, excerpt_withReturns here le, excerpt_eq_concat here le, List.all_append,
    List.all_append, List.all_map, same]
  simp [isBlank_ended]

end Buffer

theorem Target.Covers.withReturns {source : Text} {how : Anchoring} {target : Target} {block : Block}
    (covers : target.Covers (Buffer.ofText source) how block) :
    target.Covers (Buffer.ofText (Text.withReturns source)) how block := by
  cases covers with
  | caret located => exact .caret ((Buffer.locate_withReturns source how _).trans located)
  | lines _ present =>
    refine .lines _ ?_
    rw [Buffer.lineCount_withReturns]
    exact present

/-! ### Runs that send -/

namespace Job

variable {job : Job} {host host' : Host} {code code' : Text}

/-- The run types this to its interpreter: the interpreter has it to read, and what it prints is printed. -/
def Types (job : Job) (host : Host) (input : Text) : Prop :=
  ∀ program : Program, (job.run { host with programs := fun _ => .ok program }).output =
    (program.respond Session.arguments input).1

theorem Types.unique {input input' : Text} (types : job.Types host input) (types' : job.Types host input') :
    input = input' := by
  let reader : Program := ⟨fun _ input => (input, .exited 0), fun _ _ => []⟩
  exact (types reader).symm.trans (types' reader)

theorem types_of_extracts (extracts : job.Extracts host code) (text : Text.isBlank code = false)
    (send : job.send = true) : job.Types host (Text.unlines (Prompt.interactive code ++ [[]])) := by
  intro program
  have extracts : job.Extracts { host with programs := fun _ => .ok program } code := extracts
  rw [run_of_extracts extracts text send, typeCode_eq rfl]

theorem run_eq_of_lines (extracts : job.Extracts host code) (extracts' : job.Extracts host' code')
    (programs : host'.programs = host.programs) (send : job.send = true)
    (blank : Text.isBlank code' = Text.isBlank code) (lines : Text.lines code' = Text.lines code) :
    job.run host' = job.run host := by
  have typed : Prompt.interactive code' = Prompt.interactive code := congrArg Prompt.frame lines
  cases text : Text.isBlank code with
  | true => rw [(Ends.blank extracts text).run_eq, (Ends.blank extracts' (blank.trans text)).run_eq]
  | false =>
    rw [run_of_extracts extracts text send, run_of_extracts extracts' (blank.trans text) send]
    cases started : host.programs job.interpreter with
    | error why => simp only [typeCode, programs, started]
    | ok program => rw [typeCode_eq started, typeCode_eq (programs ▸ started), typed, lines]

/-- What a run sends of the lines `above` and a last line `l` if more lines come after them, where the file of `host'`
    has carriage returns before its newlines and that of `host` has none. -/
structure SendsApart (job : Job) (host host' : Host) (above : List Text) (l : Text) : Prop where
  nothing : (above ++ [l]).all Text.isBlank = true → ∀ programs : Programs,
    job.run { host with programs } = ⟨.ok .nothingToRun, [], []⟩ ∧
      job.run { host' with programs } = ⟨.ok .nothingToRun, [], []⟩
  plain : (above ++ [l]).all Text.isBlank = false → job.Types host (Text.unlines
    (Prompt.frame above ++ Prompt.opening (above.getLast?.any (Line.isBody 0)) l ++ (if l = [] then [] else [l]) ++ [[]]))
  returned : (above ++ [l]).all Text.isBlank = false → job.Types host' (Text.unlines
    (Prompt.frame above ++
      (if l = "elif".toList then [] else Prompt.opening (above.getLast?.any (Line.isBody 0)) l) ++ [l ++ ['\r']] ++ [[]]))

theorem sendsApart {above : List Text} {l : Text} (extracts : job.Extracts host code)
    (extracts' : job.Extracts host' code') (send : job.send = true)
    (blank : Text.isBlank code = (above ++ [l]).all Text.isBlank) (blank' : Text.isBlank code' = Text.isBlank code)
    (lines : Text.lines code = above ++ if l = [] then [] else [l]) (lines' : Text.lines code' = above ++ [l ++ ['\r']]) :
    job.SendsApart host host' above l where
  nothing allBlank programs := by
    have held : job.Extracts { host with programs } code := extracts
    have held' : job.Extracts { host' with programs } code' := extracts'
    rw [← blank] at allBlank
    exact ⟨(Ends.blank held allBlank).run_eq, (Ends.blank held' (blank'.trans allBlank)).run_eq⟩
  plain text := by
    have types := types_of_extracts extracts (blank.trans text) send
    rw [Prompt.interactive, lines] at types
    by_cases none : l = []
    · subst none
      rw [Prompt.opening_of_isBlank _ rfl]
      simpa using types
    · simpa [none, Prompt.frame_concat] using types
  returned text := by
    have types := types_of_extracts extracts' (blank'.trans (blank.trans text)) send
    rw [Prompt.interactive, lines', Prompt.frame_concat, Prompt.opening_append_return] at types
    exact types

/-- Line endings reach an interpreter only at the end of the code. The same lines are covered with carriage returns
    before the newlines. If they reach to the end of the text, a run that sends comes to the same; if not,
    nothing is sent of blank lines, and otherwise the last line is sent with a carriage return after it. It is
    sent then even if it is empty, and nothing is put in before it if it is `elif`. -/
theorem run_withReturns (source : Text) (clean : '\r' ∉ source) (target : Target) (how : Anchoring)
    (present : target.last < (Buffer.ofText source).lineCount)
    (ordered : ∀ first last, target = .lines first last → first ≤ last) :
    ∃ block, target.Covers (Buffer.ofText source) how block ∧
      ∀ (job : Job) (host host' : Host), job.target = target → job.how = how → job.send = true →
        host.contents job.file = .ok (Utf8.encode source) →
        host'.contents job.file = .ok (Utf8.encode (Text.withReturns source)) →
          (block.last + 1 = (Buffer.ofText source).lineCount →
            ∀ programs, job.run { host' with programs } = job.run { host with programs }) ∧
          (block.last + 1 < (Buffer.ofText source).lineCount →
            ∃ above l, (Buffer.ofText source).excerpt block.first block.last = above ++ [l] ∧
              job.SendsApart host host' above l) := by
  obtain ⟨block, covers⟩ := Target.exists_covers how present ordered
  refine ⟨block, covers, ?_⟩
  rintro job host host' rfl rfl send held held'
  have le := block.first_le_last
  obtain ⟨l, here⟩ : ∃ l, (Buffer.ofText source).lines[block.last]? = some l :=
    ⟨_, List.getElem?_eq_getElem covers.last_lt⟩
  have extracts : job.Extracts host _ := ⟨source, held, covers.code_eq⟩
  have extracts' : job.Extracts host' _ := ⟨_, held', covers.withReturns.code_eq⟩
  have lines := Buffer.lines_code_eq clean here le
  have lines' := Buffer.lines_code_withReturns here le
  have blank' := Buffer.isBlank_code_withReturns here le
  refine ⟨?_, ?_⟩
  · intro whole programs
    rw [Buffer.ended, if_pos whole, ← lines] at lines'
    have held : job.Extracts { host with programs } _ := extracts
    have held' : job.Extracts { host' with programs } _ := extracts'
    exact run_eq_of_lines held held' rfl send blank' lines'
  · intro more
    rw [Buffer.ended, if_neg (Nat.ne_of_lt more), if_neg (by simp)] at lines'
    have parts := Buffer.excerpt_eq_concat here le
    have blank := Text.isBlank_join ((Buffer.ofText source).excerpt block.first block.last)
    exact ⟨_, l, parts, sendsApart extracts extracts' send (parts ▸ blank) blank' lines lines'⟩

/-- Below an indented line a bare `elif` begins a statement, and with a carriage return it is a clause. -/
theorem run_withReturns_elif :
    let source : Text := "if x:\n  a\nelif\n\nb".toList
    let holding (t : Text) : Host := ⟨fun _ => .ok (Utf8.encode t), Rehearsal.programs⟩
    let job : Job := ⟨[], .lines 0 2, .outermost, true, "python".toList, 0⟩
    '\r' ∉ source ∧ 2 < (Buffer.ofText source).lineCount ∧
      job.Types (holding source) "if x:\n  a\n\nelif\n\n".toList ∧
      job.Types (holding (Text.withReturns source)) "if x:\n  a\nelif\r\n\n".toList := by
  intro source holding job
  have clean : '\r' ∉ source := by decide
  have present : 2 < (Buffer.ofText source).lineCount := by decide
  obtain ⟨block, covers, differ⟩ := run_withReturns source clean (.lines 0 2) .outermost present
    fun first last same => by cases same; decide
  obtain ⟨first, last, _⟩ := Target.covers_lines_iff.mp covers
  obtain ⟨above, l, parts, apart⟩ := (differ job (holding source) (holding (Text.withReturns source)) rfl rfl rfl rfl rfl).2
    (by rw [last]; decide)
  rw [first, last] at parts
  have three : (Buffer.ofText source).excerpt 0 2 = ["if x:".toList, "  a".toList] ++ ["elif".toList] := by decide
  obtain ⟨rfl, alone⟩ := List.append_inj' (three.symm.trans parts) rfl
  obtain rfl := List.singleton_inj.mp alone
  exact ⟨clean, present, apart.plain (by decide), apart.returned (by decide)⟩

/-- A line that others come after is sent with the carriage return of its line ending. -/
theorem types_carriage_return :
    let source : Text := "x = 1\ny = 2\n".toList
    let holding (t : Text) : Host := ⟨fun _ => .ok (Utf8.encode t), Rehearsal.programs⟩
    let job : Job := ⟨[], .caret 0, .outermost, true, "python".toList, 0⟩
    '\r' ∉ source ∧ job.target.last < (Buffer.ofText source).lineCount ∧ job.send = true ∧
      job.Types (holding source) "x = 1\n\n".toList ∧
      job.Types (holding (Text.withReturns source)) "x = 1\r\n\n".toList ∧
      ¬ job.Types (holding (Text.withReturns source)) "x = 1\n\n".toList := by
  intro source holding job
  have extracts : job.Extracts (holding source) "x = 1".toList := ⟨source, rfl, rfl⟩
  have extracts' : job.Extracts (holding (Text.withReturns source)) "x = 1\r".toList := ⟨_, rfl, rfl⟩
  have plain : job.Types (holding source) "x = 1\n\n".toList :=
    types_of_extracts extracts (by decide) rfl
  have returned : job.Types (holding (Text.withReturns source)) "x = 1\r\n\n".toList :=
    types_of_extracts extracts' (by decide) rfl
  refine ⟨by decide, by decide, rfl, plain, returned, ?_⟩
  intro same
  exact absurd (same.unique returned) (by decide)

end Job
end Offside
