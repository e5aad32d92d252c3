import Offside.Proofs.Stream

/-!
Framing goes through the lines with one bit of memory. What it comes to can be told without it: an empty line is
put in before each line that would run into the statement of the line right above it, and nowhere else
(`frame_eq_spaced`). So lines that are apart already are framed to themselves (`frame_eq_self_iff`).
-/

namespace Offside.Prompt

variable {ls : List Text} {i : Nat}

/-- Line `i` would run into the statement of the line right above it. -/
def Collides (ls : List Text) (i : Nat) : Prop :=
  0 < i ∧ ∃ a b, ls[i - 1]? = some a ∧ ls[i]? = some b ∧ RunsInto a b

theorem collides_iff (ls : List Text) (i : Nat) :
    Collides ls i ↔ 0 < i ∧ ls[i - 1]?.any (Line.isBody 0) = true ∧ ls[i]?.any begins = true := by
  simp only [Collides, runsInto_iff, Option.any_eq_true]
  tauto

instance (ls : List Text) (i : Nat) : Decidable (Collides ls i) := decidable_of_iff _ (collides_iff ls i).symm

/-- The lines, and an empty one before each that would run into the statement above it. -/
def spaced (ls : List Text) : List Text :=
  ls.zipIdx.flatMap fun (l, i) => if Collides ls i then [[], l] else [l]

theorem collides_append (above : List Text) {below : List Text} (early : i < above.length) :
    Collides (above ++ below) i ↔ Collides above i := by
  have before : i - 1 < above.length := Nat.lt_of_le_of_lt (Nat.sub_le i 1) early
  rw [Collides, List.getElem?_append_left early, List.getElem?_append_left before]
  rfl

theorem collides_concat (above : List Text) (l : Text) :
    Collides (above ++ [l]) above.length ↔ (above.getLast?.any (Line.isBody 0) && begins l) = true := by
  rw [collides_iff, Bool.and_eq_true]
  cases above using List.reverseRecOn with
  | nil => simp
  | append_singleton above a => simp

theorem spaced_concat (above : List Text) (l : Text) :
    spaced (above ++ [l]) = spaced above ++ opening (above.getLast?.any (Line.isBody 0)) l ++ [l] := by
  -- Whether a line collides is settled by the lines down to it.
  have unchanged : (above.zipIdx.flatMap fun (m, i) => if Collides (above ++ [l]) i then [[], m] else [m]) =
      spaced above := by
    refine List.flatMap_congr ?_
    rintro ⟨m, i⟩ member
    have early : i < above.length := List.snd_lt_of_mem_zipIdx member
    simp only [collides_append above early]
  rw [spaced, List.zipIdx_append, List.flatMap_append, unchanged, List.append_assoc]
  simp only [List.zipIdx_singleton, Nat.zero_add, List.flatMap_singleton, collides_concat, opening]
  split <;> rfl

theorem frame_eq_spaced (ls : List Text) : frame ls = spaced ls := by
  induction ls using List.reverseRecOn with
  | nil => rfl
  | append_singleton above l ih => rw [frame_concat, ih, spaced_concat]

/-- The empty line that is put in before line `i` comes right after what is read of the lines above it. -/
theorem frame_of_collides (collides : Collides ls i) :
    ∃ above a b below, frame ls = above ++ a :: [] :: b :: below ∧ frame (ls.take i) = above ++ [a] ∧
      ls[i - 1]? = some a ∧ ls[i]? = some b ∧ RunsInto a b := by
  obtain ⟨positive, a, b, before, here, into⟩ := collides
  obtain ⟨j, rfl⟩ := Nat.exists_eq_add_one_of_ne_zero (Nat.ne_of_gt positive)
  rw [Nat.add_sub_cancel] at before
  have above : ls.take (j + 1) = ls.take j ++ [a] := by rw [List.take_add_one, before, Option.toList_some]
  have below : ls.drop (j + 1) = b :: ls.drop (j + 2) := by
    obtain ⟨present, rfl⟩ := List.getElem?_eq_some_iff.mp here
    exact List.drop_eq_getElem_cons present
  -- Line `i - 1` ends what is read of the lines above, whatever was put in before it.
  have framed := frame_concat (ls.take j) a
  rw [← above] at framed
  refine ⟨_, a, b, frameFrom (Line.isBody 0 b) (ls.drop (j + 2)), ?_, framed, before, here, into⟩
  calc frame ls = frame (ls.take (j + 1) ++ ls.drop (j + 1)) := by rw [List.take_append_drop]
    _ = frame (ls.take (j + 1)) ++ frameFrom (Line.isBody 0 a) (b :: ls.drop (j + 2)) := by
      rw [frame, frameFrom_append, below, above, List.getLast?_concat]
      rfl
    _ = _ := by
      rw [frameFrom_cons, opening_eq, if_pos into, framed]
      simp

/-- Framing loses nothing and puts in empty lines by a rule for neighbours: one right before each line that begins a
    statement and follows a line of a body. So each of them stands between two lines that are not blank. -/
theorem interactive_eq_spaced (code : Text) :
    let ls := Text.lines code
    interactive code = (ls.zipIdx.flatMap fun (l, i) => if Collides ls i then [[], l] else [l]) ∧
      ∀ i, Collides ls i → ∃ above a b below, interactive code = above ++ a :: [] :: b :: below ∧
        frame (ls.take i) = above ++ [a] ∧ ls[i - 1]? = some a ∧ ls[i]? = some b ∧
        Text.isBlank a = false ∧ Text.isBlank b = false := by
  intro ls
  refine ⟨frame_eq_spaced ls, ?_⟩
  intro i collides
  obtain ⟨above, a, b, below, framed, upTo, before, here, into⟩ := frame_of_collides collides
  exact ⟨above, a, b, below, framed, upTo, before, here, into.body, into.text⟩

/-- Below a body and a blank line nothing is put in; right below a body it is. -/
theorem interactive_eq_spaced_dedent :
    let code : Text := "if x:\n  a\n  \nb\n\tc\n  d\ne".toList
    Collides (Text.lines code) 6 ∧
      interactive code = ["if x:", "  a", "  ", "b", "\tc", "  d", "", "e"].map (·.toList) ∧
      ∃ above below, interactive code = above ++ "  d".toList :: [] :: "e".toList :: below := by
  intro code
  have collides : Collides (Text.lines code) 6 := by decide
  obtain ⟨framed, between⟩ := interactive_eq_spaced code
  obtain ⟨above, a, b, below, parts, _, before, here, _⟩ := between 6 collides
  obtain rfl : "  d".toList = a := Option.some.inj before
  obtain rfl : "e".toList = b := Option.some.inj here
  refine ⟨collides, ?_, above, below, parts⟩
  rw [framed]
  decide

theorem frameFrom_eq_self_of_isChain {a : Text} (apart : (a :: ls).IsChain fun a b => ¬ RunsInto a b) :
    frameFrom (Line.isBody 0 a) ls = ls := by
  induction ls generalizing a with
  | nil => rfl
  | cons l more ih =>
    rw [List.isChain_cons_cons] at apart
    rw [frameFrom_cons, opening_eq, if_neg apart.1, ih apart.2, List.nil_append]

theorem frame_eq_self_iff (ls : List Text) : frame ls = ls ↔ ls.IsChain fun a b => ¬ RunsInto a b := by
  constructor
  · intro same
    rw [← same]
    exact isChain_frame ls
  · intro apart
    cases ls with
    | nil => rfl
    | cons l more =>
      have nothing : opening false l = [] := rfl
      rw [frame, frameFrom_cons, nothing, frameFrom_eq_self_of_isChain apart, List.nil_append]

/-- Framed again, what is typed for a code is read without the carriage returns at the ends of its lines. -/
theorem interactive_unlines (code : Text) :
    interactive (Text.unlines (interactive code)) = frame ((interactive code).map Text.dropReturn) := by
  rw [interactive, Text.lines_unlines fun l => not_mem_of_mem_interactive]

theorem map_dropReturn_interactive_iff (code : Text) :
    (interactive code).map Text.dropReturn = interactive code ↔ ∀ l ∈ Text.lines code, l.getLast? ≠ some '\r' := by
  have each : (interactive code).map Text.dropReturn = interactive code ↔
      ∀ l ∈ interactive code, Text.dropReturn l = id l := by
    rw [← List.map_inj_left, List.map_id]
  rw [each]
  simp only [id, Text.dropReturn_eq_self_iff]
  constructor
  · intro clean l member
    exact clean l ((sublist_frameFrom false (Text.lines code)).mem member)
  · intro clean l member
    rcases mem_frameFrom member with rfl | member
    · simp
    · exact clean l member

/-- Framing is done once and for all: what is typed for a code is framed to itself, if only no line of the code ends in
    a carriage return, which reading it again would take for a part of the line ending. -/
theorem interactive_interactive_iff (code : Text) :
    interactive (Text.unlines (interactive code)) = interactive code ↔
      ∀ l ∈ Text.lines code, l.getLast? ≠ some '\r' := by
  rw [interactive_unlines, ← map_dropReturn_interactive_iff]
  constructor
  · intro same
    -- Framing loses no line, so here it put in none.
    have kept : ((interactive code).map Text.dropReturn).Sublist (frame ((interactive code).map Text.dropReturn)) :=
      sublist_frameFrom false _
    rw [same] at kept
    exact kept.eq_of_length (List.length_map _)
  · intro same
    rw [same]
    exact (frame_eq_self_iff _).mpr (isChain_frame _)

example : interactive "a\r".toList = ["a\r".toList] ∧ interactive (Text.unlines (interactive "a\r".toList)) = ["a".toList] := by
  decide

/-! ### Compound statements -/

/-- Whether a line opens a compound statement: by a keyword and a space, or as `try:`. -/
def opensCompound (l : Text) : Bool := Line.beginsWithKeyword l || ['t', 'r', 'y', ':'].isPrefixOf l

def Clause (l : Text) : Prop := Line.indent l = 0 ∧ (opensCompound l = true ∨ resumes l = true)

instance (l : Text) : Decidable (Clause l) :=
  inferInstanceAs (Decidable (Line.indent l = 0 ∧ (opensCompound l = true ∨ resumes l = true)))

/-- The line is part of a compound statement, which the prompt takes to be open after it: the line belongs to an
    indented body or is a clause. -/
def InCompound (l : Text) : Prop := (Text.isBlank l = false ∧ 0 < Line.indent l) ∨ Clause l

instance (l : Text) : Decidable (InCompound l) :=
  inferInstanceAs (Decidable ((Text.isBlank l = false ∧ 0 < Line.indent l) ∨ Clause l))

theorem not_inCompound_nil : ¬ InCompound [] := by decide

/-- Of neighbours that should be kept apart framing leaves together those of which the first is a clause. -/
theorem runsInto_or_not_iff (a b : Text) :
    (RunsInto a b ∨ ¬ (InCompound a ∧ begins b = true)) ↔ ¬ (Clause a ∧ begins b = true) := by
  rw [runsInto_iff, Line.isBody_iff, InCompound]
  -- A line of a body is indented, and a clause is not.
  have exclusive : Clause a → ¬ 0 < Line.indent a := fun clause => by simp [clause.1]
  tauto

/-- No statement is sent into a compound statement that is still open just if in the code none stands right below a
    clause. Framing looks for indented lines alone, so a clause with its body on the same line is left open for
    what comes below it. -/
theorem apart_iff (code : Text) :
    ((interactive code).IsChain fun a b => ¬ (InCompound a ∧ begins b = true)) ↔
      (Text.lines code).IsChain fun a b => ¬ (Clause a ∧ begins b = true) := by
  have blank (a : Text) : ¬ (InCompound a ∧ begins [] = true) ∧ ¬ (InCompound [] ∧ begins a = true) := by
    have nothing : begins [] = false := rfl
    simp [nothing, not_inCompound_nil]
  rw [interactive, isChain_frame_iff blank]
  simp only [runsInto_or_not_iff]

/-- After a body on the line of its header, or of an `else`, the next statement follows at once. -/
theorem clause_left_open :
    interactive "if x: a()\nb()".toList = ["if x: a()".toList, "b()".toList] ∧
      ¬ ((interactive "if x: a()\nb()".toList).IsChain fun a b => ¬ (InCompound a ∧ begins b = true)) ∧
      ¬ ((interactive "if x:\n  a()\nelse: c()\nd()".toList).IsChain fun a b => ¬ (InCompound a ∧ begins b = true)) := by
  refine ⟨by decide, by decide, by decide⟩

end Offside.Prompt
