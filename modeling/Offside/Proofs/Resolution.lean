import Offside.Proofs.Extraction

namespace Offside

open Block (Under depthAt headedBy under_iff)

namespace Anchoring

variable {how : Anchoring} {lines : List Text} {n : Nat} {f : Finding}

theorem Finds.exists_serves (finds : Finds how lines n f) (headed : f.ground = .header) :
    ∃ s, how.Serves lines n s ∧ f.block = headedBy lines s := by
  cases finds with
  | header nearest => exact ⟨_, nearest.1, rfl⟩
  | plain _ _ => cases headed
  | orphan _ _ => cases headed

theorem Finds.eq_single (finds : Finds how lines n f) (other : f.ground ≠ .header) : f.block = .single n := by
  cases finds with
  | header _ => exact absurd rfl other
  | plain _ _ => rfl
  | orphan _ _ => rfl

theorem Finds.not_under_after (finds : Finds how lines n f) (headed : f.ground = .header) :
    ¬ Under lines f.block.first (f.block.last + 1) := by
  obtain ⟨s, serves, block⟩ := finds.exists_serves headed
  rw [block]
  exact Block.not_under_after serves.present

theorem Finds.headerAt_first (finds : Finds how lines n f) (headed : f.ground = .header) :
    headerAt lines f.block.first := by
  obtain ⟨s, serves, block⟩ := finds.exists_serves headed
  rw [block]
  exact serves.header

/-- A block holds the line it was located for if that line and all lines above it, up to the first of the block,
    lie under the first. -/
theorem Finds.mem_iff (finds : Finds how lines n f) :
    n ∈ f.block ↔ ∀ i, f.block.first < i → i ≤ n → Under lines f.block.first i := by
  have least := finds.first_le
  rcases finds.single_or_headed with alone | ⟨s, present, headed⟩
  · rw [alone]
    refine iff_of_true (Block.first_mem _) ?_
    exact fun i below upTo => absurd upTo (Nat.not_le_of_lt below)
  · rw [headed] at least ⊢
    exact (Block.mem_headedBy_iff present n).trans (and_iff_right least)

end Anchoring

namespace Buffer

theorem ends_of_not_under {b : Buffer} {s i : Nat} (stops : ¬ Under b.lines s i) (upTo : i ≤ b.lineCount) :
    i = b.lineCount ∨ ∃ l, b.line i = .ok l ∧ (Text.isBlank l = true ∨ Line.indent l ≤ depthAt b.lines s) := by
  rcases Nat.lt_or_eq_of_le upTo with present | whole
  · have here : b.lines[i]? = some b.lines[i] := List.getElem?_eq_getElem present
    refine .inr ⟨_, (b.line_eq_ok_iff _ _).mpr here, ?_⟩
    by_contra neither
    rw [not_or, Bool.not_eq_true, Nat.not_le] at neither
    exact stops ((under_iff _ _ _).mpr ⟨_, here, neither⟩)
  · exact .inl whole

/-- Wherever there is a line a block is located for it, its lines are there, and its text can be read. All its lines
    lie under its first. The block of a header ends only where the next line does not, and any other block is
    the line alone. A block holds the line that it was located for if nothing above that line ends it. -/
theorem locate_extent (b : Buffer) (how : Anchoring) (n : Nat) :
    (n < b.lineCount → ∃ f span code, b.locate how n = .ok f ∧
      f.block.first ≤ n ∧ f.block.first ≤ f.block.last ∧ f.block.last < b.lineCount ∧
      (∀ i, f.block.first < i → i ≤ f.block.last → Under b.lines f.block.first i) ∧
      (f.ground = .header → f.block.last + 1 = b.lineCount ∨ ∃ l, b.line (f.block.last + 1) = .ok l ∧
        (Text.isBlank l = true ∨ Line.indent l ≤ depthAt b.lines f.block.first)) ∧
      (f.ground ≠ .header → f.block = .single n) ∧
      (n ∈ f.block ↔ ∀ i, f.block.first < i → i ≤ n → Under b.lines f.block.first i) ∧
      f.block.span b = .ok span ∧ b.textOf span = .ok code ∧ b.blockText how n = .ok code) ∧
    (b.lineCount ≤ n → b.locate how n = .error ⟨n, b.lineCount⟩) := by
  constructor
  · intro present
    obtain ⟨f, located, finds⟩ := exists_locate how present
    have le := f.block.first_le_last
    have begins : f.block.first < b.lineCount := finds.lt_of_mem present f.block.first_mem
    have ends : f.block.last < b.lineCount := finds.lt_of_mem present f.block.last_mem
    have here : b.line f.block.last = .ok b.lines[f.block.last] :=
      (b.line_eq_ok_iff _ _).mpr (List.getElem?_eq_getElem ends)
    refine ⟨f, _, _, located, finds.first_le, le, ends, ?_, ?_, finds.eq_single, finds.mem_iff, Block.span_eq here,
      textOf_whole begins here le, blockText_eq located⟩
    · intro i below upTo
      exact finds.under_of_mem ⟨Nat.le_of_lt below, upTo⟩ below
    · intro headed
      exact ends_of_not_under (finds.not_under_after headed) ends
  · intro missing
    exact (b.locate_eq_error_iff how n _).mpr ⟨missing, rfl⟩

/-- The outermost block of the last line of two methods ends at the blank line between them. -/
theorem locate_extent_twoMethods :
    (5 < twoMethods.lineCount ∧ ∃ f, twoMethods.locate .outermost 5 = .ok f ∧ f.ground = .header ∧
      (∃ l, twoMethods.line (f.block.last + 1) = .ok l ∧
        (Text.isBlank l = true ∨ Line.indent l ≤ depthAt twoMethods.lines f.block.first)) ∧
      (5 ∈ f.block ↔ ∀ i, f.block.first < i → i ≤ 5 → Under twoMethods.lines f.block.first i) ∧ ¬ 5 ∈ f.block) ∧
    twoMethods.lineCount ≤ 6 ∧ twoMethods.locate .outermost 6 = .error ⟨6, 6⟩ := by
  have found : twoMethods.locate .outermost 5 = .ok ⟨.header, ⟨0, 2, by decide⟩⟩ := rfl
  obtain ⟨f, _, _, located, _, _, _, _, stops, _, held, _⟩ := (locate_extent twoMethods .outermost 5).1 (by decide)
  obtain rfl := Except.ok.inj (found.symm.trans located)
  refine ⟨⟨by decide, _, located, rfl, ?_, held, by decide⟩, by decide, ?_⟩
  · exact (stops rfl).resolve_left (by decide)
  · exact (locate_extent twoMethods .outermost 6).2 (by decide)

/-! ### Where the block begins -/

/-- The headers above line `n` whose indentation is small enough. -/
def headersAbove (b : Buffer) (n : Nat) (small : Nat → Prop) : Set Nat :=
  {p | p < n ∧ ∃ h, b.line p = .ok h ∧ Line.isHeader h = true ∧ small (Line.indent h)}

theorem mem_headersAbove_iff (b : Buffer) (n : Nat) (small : Nat → Prop) (p : Nat) :
    p ∈ b.headersAbove n small ↔ p < n ∧ ∃ h, b.line p = .ok h ∧ Line.isHeader h = true ∧ small (Line.indent h) :=
  Iff.rfl

end Buffer

/-- The block of line `n` begins at the greatest of the candidates, or without any is the line alone. -/
def Block.Anchored (candidates : Set Nat) (n : Nat) (block : Block) : Prop :=
  IsGreatest candidates block.first ∨ candidates = ∅ ∧ block = .single n

namespace Anchoring

variable {b : Buffer} {how : Anchoring} {n : Nat} {l : Text} {f : Finding}

/-- How little a header has to be indented for a line of the given depth to be anchored at it. -/
def wants (how : Anchoring) (depth : Nat) : Nat → Prop :=
  match how with
  | .outermost => (· = 0)
  | .innermost => (· < depth)

theorem admits_iff (how : Anchoring) (depth : Nat) (h : Text) :
    how.admits depth h = true ↔ Line.isHeader h = true ∧ how.wants depth (Line.indent h) := by
  cases how <;> simp [admits, wants]

theorem setOf_serves (here : b.line n = .ok l) (other : how.anchorsItself l = false)
    (indented : how = .outermost → Line.indent l ≠ 0) :
    {p | how.Serves b.lines n p} = b.headersAbove n (how.wants (Line.indent l)) := by
  have read := (b.line_eq_ok_iff _ _).mp here
  ext p
  have above (before : p < n) :
      how.Serves b.lines n p ↔ Line.indent l ≠ 0 ∧ p ∈ b.headersAbove n (how.wants (Line.indent l)) := by
    simp only [serves_above_iff read before, Option.any_eq_true, admits_iff, b.mem_headersAbove_iff, before, true_and,
      b.line_eq_ok_iff]
  constructor
  · intro serves
    refine ((above ?_).mp serves).2
    refine Nat.lt_of_le_of_ne serves.notBelow ?_
    -- A line that serves itself is its own header.
    intro same
    rw [same] at serves
    rw [(serves_self_iff read).mp serves] at other
    cases other
  · intro candidate
    obtain ⟨before, h, _, _, little⟩ := (b.mem_headersAbove_iff n _ p).mp candidate
    refine (above before).mpr ⟨?_, candidate⟩
    cases how with
    | outermost => exact indented rfl
    | innermost => exact Nat.ne_zero_of_lt little

theorem Finds.anchored (finds : Finds how b.lines n f) (here : b.line n = .ok l) (other : how.anchorsItself l = false)
    (indented : how = .outermost → Line.indent l ≠ 0) :
    f.block.Anchored (b.headersAbove n (how.wants (Line.indent l))) n := by
  rw [← setOf_serves here other indented]
  cases finds with
  | header nearest => exact .inl nearest
  | plain none _ => exact .inr ⟨Set.eq_empty_iff_forall_notMem.mpr none, rfl⟩
  | orphan none _ => exact .inr ⟨Set.eq_empty_iff_forall_notMem.mpr none, rfl⟩

theorem Finds.first_eq (finds : Finds how b.lines n f) (here : b.line n = .ok l)
    (itself : Line.indent l = 0 ∨ how.anchorsItself l = true) : f.block.first = n := by
  rw [← (find_eq_iff ((b.line_eq_ok_iff _ _).mp here) f).mpr finds, find]
  split
  · rfl
  · next other =>
    rw [if_pos (itself.resolve_right other)]
    rfl

end Anchoring

namespace Buffer

theorem not_anchor {b : Buffer} {p : Nat} {h : Text} (here : b.line p = .ok h)
    (idle : Text.trim h = [] ∨ (Text.trim h).head? = some '#') :
    (∀ m small, p ∉ b.headersAbove m small) ∧
      ∀ how m f, b.locate how m = .ok f → f.ground = .header → f.block.first ≠ p := by
  have noHeader : Line.isHeader h = false := Line.isHeader_of_idle idle
  refine ⟨?_, ?_⟩
  · rintro m small ⟨_, other, there, header, _⟩
    obtain rfl := Except.ok.inj (here.symm.trans there)
    rw [noHeader] at header
    cases header
  · rintro how m f located headed rfl
    obtain ⟨_, finds⟩ := (b.locate_eq_ok_iff_finds how m f).mp located
    have header := finds.headerAt_first headed
    rw [headerAt_eq ((b.line_eq_ok_iff _ _).mp here), noHeader] at header
    cases header

/-- The outermost block of a line that is not indented begins at that line, and of an indented one at the nearest
    header above that is not indented. The innermost block of a header begins at that header, and of another
    line at the nearest header above that is less indented. Without such a header the line is a block by
    itself. A blank line or a comment is never such a header. -/
theorem locate_nearest (b : Buffer) (n : Nat) (l : Text) (here : b.line n = .ok l) :
    (∃ f, b.locate .outermost n = .ok f ∧
      if Line.indent l = 0 then f.block.first = n
      else f.block.Anchored (b.headersAbove n (· = 0)) n) ∧
    (∃ f, b.locate .innermost n = .ok f ∧
      if Line.isHeader l then f.block.first = n
      else f.block.Anchored (b.headersAbove n (· < Line.indent l)) n) ∧
    ∀ p h, b.line p = .ok h → Text.trim h = [] ∨ (Text.trim h).head? = some '#' →
      Line.isHeader h = false ∧ (∀ m small, p ∉ b.headersAbove m small) ∧
        ∀ how m f, b.locate how m = .ok f → f.ground = .header → f.block.first ≠ p := by
  have present : n < b.lineCount := (List.getElem?_eq_some_iff.mp ((b.line_eq_ok_iff _ _).mp here)).1
  refine ⟨?_, ?_, ?_⟩
  · obtain ⟨f, located, finds⟩ := exists_locate .outermost present
    refine ⟨f, located, ?_⟩
    split
    · next flat => exact finds.first_eq here (.inl flat)
    · next indented => exact finds.anchored here (by simp [Anchoring.anchorsItself, indented]) fun _ => indented
  · obtain ⟨f, located, finds⟩ := exists_locate .innermost present
    refine ⟨f, located, ?_⟩
    split
    · next header => exact finds.first_eq here (.inr (by simp [Anchoring.anchorsItself, header]))
    · next other => exact finds.anchored here (by simp [Anchoring.anchorsItself, other]) (by rintro ⟨⟩)
  · intro p h there idle
    exact ⟨Line.isHeader_of_idle idle, not_anchor there idle⟩

/-- A comment is passed over on the way up to the header, though it ends in a colon. -/
theorem locate_nearest_comment :
    let b := ofLines ["def f():".toList, "# note:".toList, "  x".toList]
    b.line 2 = .ok "  x".toList ∧ IsGreatest (b.headersAbove 2 (· = 0)) 0 ∧ IsGreatest (b.headersAbove 2 (· < 2)) 0 ∧
      ∀ m small, 1 ∉ b.headersAbove m small := by
  intro b
  obtain ⟨⟨o, outer, nearest⟩, ⟨i, inner, nearest'⟩, idle⟩ := locate_nearest b 2 "  x".toList rfl
  have found : b.locate .outermost 2 = .ok ⟨.header, ⟨0, 0, by decide⟩⟩ := rfl
  have found' : b.locate .innermost 2 = .ok ⟨.header, ⟨0, 0, by decide⟩⟩ := rfl
  obtain rfl := Except.ok.inj (found.symm.trans outer)
  obtain rfl := Except.ok.inj (found'.symm.trans inner)
  rw [if_neg (by decide)] at nearest nearest'
  refine ⟨rfl, nearest.resolve_right ?_, nearest'.resolve_right ?_, ?_⟩
  · exact fun alone => absurd alone.2 (by decide)
  · exact fun alone => absurd alone.2 (by decide)
  · exact (idle 1 "# note:".toList rfl (.inr (by decide))).2.1

end Buffer
end Offside
