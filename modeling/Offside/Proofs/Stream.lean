import Mathlib.Data.List.Chain
import Mathlib.Data.List.Induction
import Offside.Session

/-!
What reaches an interpreter over a whole session is lines, each with a newline after it. Framing keeps apart what
would run into the compound statement above it within one delivery (`isChain_frame_iff`), and the empty line
that closes a delivery keeps it apart from the next one.
-/

namespace Offside

namespace Prompt

/-- Read right after `a`, the line `b` is taken into the statement of `a`, though it begins another one. -/
structure RunsInto (a b : Text) : Prop where
  body : Text.isBlank a = false
  deep : 0 < Line.indent a
  text : Text.isBlank b = false
  flat : Line.indent b = 0
  begins : resumes b = false

theorem not_runsInto_of_blank {a b : Text} (blank : Text.isBlank a = true ∨ Text.isBlank b = true) : ¬ RunsInto a b := by
  rintro ⟨body, _, text, _, _⟩
  simp [body, text] at blank

theorem runsInto_iff (a b : Text) : RunsInto a b ↔ Line.isBody 0 a = true ∧ begins b = true := by
  constructor
  · rintro ⟨body, deep, text, flat, new⟩
    simp [Line.isBody, begins, body, deep, text, flat, new]
  · rintro ⟨body, new⟩
    obtain ⟨text, deep⟩ := (Line.isBody_iff _ _).mp body
    simp only [begins, Bool.and_eq_true, Bool.not_eq_true', decide_eq_true_eq] at new
    exact ⟨text, deep, new.1.1, new.1.2, new.2⟩

instance (a b : Text) : Decidable (RunsInto a b) := decidable_of_iff _ (runsInto_iff a b).symm

theorem opening_eq (a b : Text) : opening (Line.isBody 0 a) b = if RunsInto a b then [[]] else [] := by
  simp only [opening, runsInto_iff, Bool.and_eq_true]

theorem mem_frameFrom {inBody : Bool} {ls : List Text} {l : Text} (member : l ∈ frameFrom inBody ls) :
    l = [] ∨ l ∈ ls := by
  fun_induction frameFrom inBody ls with
  | case1 => exact .inr member
  | _ =>
    simp only [List.mem_cons] at member ⊢
    tauto

/-- Framing keeps apart what would run into the line above it, and leaves all other neighbours as they are. -/
theorem isChain_frameFrom_iff {R : Text → Text → Prop} (blank : ∀ a, R a [] ∧ R [] a) (a : Text) (ls : List Text) :
    (a :: frameFrom (Line.isBody 0 a) ls).IsChain R ↔ (a :: ls).IsChain fun a b => RunsInto a b ∨ R a b := by
  induction ls generalizing a with
  | nil => simp [frameFrom]
  | cons l more ih =>
    rw [frameFrom_cons, opening_eq, List.isChain_cons_cons, ← ih l]
    split
    · next into => simp [into, blank]
    · next apart => simp [apart]

theorem isChain_frame_iff {R : Text → Text → Prop} (blank : ∀ a, R a [] ∧ R [] a) (ls : List Text) :
    (frame ls).IsChain R ↔ ls.IsChain fun a b => RunsInto a b ∨ R a b := by
  cases ls with
  | nil => simp [frame, frameFrom]
  | cons l more =>
    have nothing : opening false l = [] := rfl
    rw [frame, frameFrom_cons, nothing]
    exact isChain_frameFrom_iff blank l more

theorem isChain_frame (ls : List Text) : (frame ls).IsChain fun a b => ¬ RunsInto a b := by
  have blank (a : Text) : ¬ RunsInto a [] ∧ ¬ RunsInto [] a :=
    ⟨not_runsInto_of_blank (.inr rfl), not_runsInto_of_blank (.inl rfl)⟩
  rw [isChain_frame_iff blank]
  exact (List.pairwise_of_forall fun a b => em (RunsInto a b)).isChain

theorem not_mem_of_mem_interactive {code l : Text} (member : l ∈ interactive code) : '\n' ∉ l := by
  rcases mem_frameFrom member with rfl | member
  · exact List.not_mem_nil
  · exact Text.not_mem_of_mem_lines member

end Prompt

namespace Session

open Prompt (RunsInto not_runsInto_of_blank)

variable {stream : List Text}

/-- The lines of one delivery: those of the code, framed, and the empty line that closes it. -/
def delivered (code : Text) : List Text := Prompt.interactive code ++ [[]]

/-- Of the lines typed so far none runs into the statement above it, and the last of them is empty. -/
structure Closed (stream : List Text) : Prop where
  apart : stream.IsChain fun a b => ¬ RunsInto a b
  last : stream ≠ [] → stream.getLast? = some []

theorem closed_nil : Closed [] := ⟨List.isChain_nil, fun none => absurd rfl none⟩

theorem Closed.deliver (closed : Closed stream) (code : Text) : Closed (stream ++ delivered code) := by
  have framed : (delivered code).IsChain fun a b => ¬ RunsInto a b := by
    refine List.isChain_append.mpr ⟨Prompt.isChain_frame (Text.lines code), List.isChain_singleton _, ?_⟩
    intro a _ b closing
    obtain rfl : [] = b := by simpa using closing
    exact not_runsInto_of_blank (.inr rfl)
  refine ⟨List.isChain_append.mpr ⟨closed.apart, framed, ?_⟩, ?_⟩
  · intro a ends b _
    by_cases none : stream = []
    · simp [none] at ends
    · obtain rfl : [] = a := by simpa [closed.last none] using ends
      exact not_runsInto_of_blank (.inl rfl)
  · intro _
    simp [delivered]

theorem closed_delivered (codes : List Text) : Closed (codes.flatMap delivered) := by
  induction codes using List.reverseRecOn with
  | nil => exact closed_nil
  | append_singleton codes code ih =>
    rw [List.flatMap_append, List.flatMap_singleton]
    exact ih.deliver code

theorem unlines_delivered (codes : List Text) :
    Text.unlines (codes.flatMap delivered) =
      codes.flatMap fun code => Text.unlines (Prompt.interactive code) ++ ['\n'] := by
  induction codes with
  | nil => rfl
  | cons code codes ih =>
    rw [List.flatMap_cons, Text.unlines_append, ih, delivered, Text.unlines_concat_nil]
    rfl

theorem typed_delivered (delay : Nat) (codes : List Text) :
    typed (codes.flatMap (deliver delay)) = Text.unlines (codes.flatMap delivered) := by
  rw [unlines_delivered]
  induction codes with
  | nil => rfl
  | cons code codes ih => rw [List.flatMap_cons, typed_append, typed_deliver, ih, List.flatMap_cons]

theorem not_mem_of_mem_delivered {codes : List Text} {l : Text} (member : l ∈ codes.flatMap delivered) : '\n' ∉ l := by
  obtain ⟨code, _, member⟩ := List.mem_flatMap.mp member
  rcases List.mem_append.mp member with framed | closing
  · exact Prompt.not_mem_of_mem_interactive framed
  · rw [List.mem_singleton.mp closing]
    exact List.not_mem_nil

/-- No statement stays open from one line of a session to the next. Whatever the pause, the interpreter reads the
    framed lines of each code and an empty line after them. Of all these lines none runs into the statement
    above it, and before each delivery but the first stands an empty line. -/
theorem statements_stay_closed (delay : Nat) (codes : List Text) :
    let input := codes.flatMap fun code => Text.unlines (Prompt.interactive code) ++ ['\n']
    typed (codes.flatMap (deliver delay)) = input ∧
      (∀ program, hold program delay codes = program.respond arguments input) ∧
      ∃ stream, Text.unlines stream = input ∧ Text.pieces input = stream ++ [[]] ∧
        stream.IsChain (fun a b => ¬ RunsInto a b) ∧
        ∀ before code after, codes = before ++ code :: after → before ≠ [] →
          ∃ above below, stream = (above ++ [[]]) ++ (Prompt.interactive code ++ [[]]) ++ below ∧
            Text.unlines (above ++ [[]]) = before.flatMap fun code => Text.unlines (Prompt.interactive code) ++ ['\n'] := by
  intro input
  have typing : typed (codes.flatMap (deliver delay)) = input := by rw [typed_delivered, unlines_delivered]
  have lines : Text.unlines (codes.flatMap delivered) = input := unlines_delivered codes
  refine ⟨typing, ?_, codes.flatMap delivered, lines, ?_, (closed_delivered codes).apart, ?_⟩
  · intro program
    rw [hold, typing]
  · rw [← lines, Text.pieces_unlines fun l => not_mem_of_mem_delivered]
  · rintro before code after rfl some
    have typedBefore : before.flatMap delivered ≠ [] := by
      obtain ⟨first, others, rfl⟩ := List.exists_cons_of_ne_nil some
      simp [delivered]
    obtain ⟨above, parts⟩ := List.getLast?_eq_some_iff.mp ((closed_delivered before).last typedBefore)
    refine ⟨above, after.flatMap delivered, ?_, ?_⟩
    · rw [← parts, List.flatMap_append, List.flatMap_cons, List.append_assoc]
      rfl
    · rw [← parts, unlines_delivered]

/-- An `else` on its own ends nothing: its delivery too begins after an empty line. -/
theorem statements_stay_closed_else :
    let codes := ["if x:\n  a".toList, "else:\n  b\nc".toList, []]
    typed (codes.flatMap (deliver 3)) = "if x:\n  a\n\nelse:\n  b\n\nc\n\n\n".toList ∧
      codes = ["if x:\n  a".toList] ++ "else:\n  b\nc".toList :: [[]] ∧
      ∃ above below, Text.unlines (above ++ [[]]) = "if x:\n  a\n\n".toList ∧
        Text.unlines ((above ++ [[]]) ++ (Prompt.interactive "else:\n  b\nc".toList ++ [[]]) ++ below) =
          "if x:\n  a\n\nelse:\n  b\n\nc\n\n\n".toList := by
  intro codes
  obtain ⟨typing, _, stream, lines, _, _, preceded⟩ := statements_stay_closed 3 codes
  obtain ⟨above, below, parts, earlier⟩ := preceded ["if x:\n  a".toList] "else:\n  b\nc".toList [[]] rfl (by decide)
  refine ⟨?_, rfl, above, below, ?_, ?_⟩
  · rw [typing]
    rfl
  · rw [earlier]
    rfl
  · rw [← parts, lines]
    rfl

end Session
end Offside
