import Offside.Proofs.Nesting

/-!
What a search looks at is which lines are headers, and which of two lines is deeper. Two lists of lines that
agree on that (`Alike`) have the same blocks. So a change of indentation that keeps the order of the depths
moves no block, and neither does blank space at the ends of lines or another kind of line ending.
-/

namespace Offside

open Block (depthAt depthAt_eq headedBy Under under_iff)

namespace Anchoring

variable {how : Anchoring} {lines lines' : List Text} {n s : Nat} {f g : Finding}

/-- The lines have the same headers, the same lines lie under them, and the same of them are less indented than
    line `n`. For the outermost anchoring the same headers are not indented. -/
structure Alike (how : Anchoring) (lines lines' : List Text) (n : Nat) : Prop where
  count : lines'.length = lines.length
  header : ∀ i, headerAt lines' i = headerAt lines i
  under : ∀ s i, headerAt lines s → (Under lines' s i ↔ Under lines s i)
  shallower : ∀ s, headerAt lines s → (depthAt lines' s < depthAt lines' n ↔ depthAt lines s < depthAt lines n)
  outer : how = .outermost → ∀ s, headerAt lines s → (depthAt lines' s = 0 ↔ depthAt lines s = 0)

theorem Alike.serves_iff (alike : Alike how lines lines' n) (s : Nat) :
    how.Serves lines' n s ↔ how.Serves lines n s := by
  constructor
  · rintro ⟨notBelow, header, shallower, outer⟩
    rw [alike.header] at header
    refine ⟨notBelow, header, shallower.imp_right (alike.shallower s header).mp, ?_⟩
    intro outermost
    exact (alike.outer outermost s header).mp (outer outermost)
  · rintro ⟨notBelow, header, shallower, outer⟩
    refine ⟨notBelow, by rw [alike.header]; exact header, shallower.imp_right (alike.shallower s header).mpr, ?_⟩
    intro outermost
    exact (alike.outer outermost s header).mpr (outer outermost)

theorem Alike.headedBy_eq (alike : Alike how lines lines' n) (serves : how.Serves lines n s) :
    headedBy lines' s = headedBy lines s := by
  have present : s < lines.length := serves.present
  have present' : s < lines'.length := alike.count ▸ present
  apply Block.eq_of_mem_iff
  intro i
  rw [Block.mem_headedBy_iff present', Block.mem_headedBy_iff present]
  refine and_congr_right ?_
  intro _
  exact forall_congr' fun j => imp_congr_right fun _ => imp_congr_right fun _ => alike.under s j serves.header

theorem Alike.nearest_iff (alike : Alike how lines lines' n) (s : Nat) :
    IsGreatest {t | how.Serves lines' n t} s ↔ IsGreatest {t | how.Serves lines n t} s := by
  have same : {t | how.Serves lines' n t} = {t | how.Serves lines n t} := Set.ext alike.serves_iff
  rw [same]

theorem Alike.unserved (alike : Alike how lines lines' n) (none : ∀ t, ¬ how.Serves lines n t) (t : Nat) :
    ¬ how.Serves lines' n t :=
  fun serves => none t ((alike.serves_iff t).mp serves)

theorem Finds.alone (finds : Finds how lines n f) (none : ∀ t, ¬ how.Serves lines n t) : f.block = .single n := by
  cases finds with
  | header nearest => exact absurd nearest.1 (none _)
  | plain _ _ => rfl
  | orphan _ _ => rfl

theorem Alike.block_eq (alike : Alike how lines lines' n) (finds : Finds how lines n f)
    (finds' : Finds how lines' n g) : g.block = f.block := by
  cases finds with
  | header nearest =>
    have same := finds'.unique (.header ((alike.nearest_iff _).mpr nearest))
    rw [same]
    exact alike.headedBy_eq nearest.1
  | plain none _ => exact finds'.alone (alike.unserved none)
  | orphan none _ => exact finds'.alone (alike.unserved none)

/-- It is found on the same ground if line `n` is indented in both or in neither. -/
theorem Alike.finds (alike : Alike how lines lines' n) (flat : depthAt lines' n = 0 ↔ depthAt lines n = 0)
    (finds : Finds how lines n f) : Finds how lines' n f := by
  cases finds with
  | header nearest =>
    rw [← alike.headedBy_eq nearest.1]
    exact .header ((alike.nearest_iff _).mpr nearest)
  | plain none top => exact .plain (alike.unserved none) (flat.mpr top)
  | orphan none deep => exact .orphan (alike.unserved none) fun top => deep (flat.mp top)

end Anchoring

namespace Buffer

open Anchoring (Alike)

variable {b b' : Buffer} {how : Anchoring} {n : Nat}

theorem locate_missing (how : Anchoring) (missing : ¬ n < b.lineCount) :
    b.locate how n = .error ⟨n, b.lineCount⟩ :=
  (b.locate_eq_error_iff how n _).mpr ⟨Nat.le_of_not_lt missing, rfl⟩

theorem located_block_eq (count : b'.lineCount = b.lineCount)
    (alike : n < b.lineCount → Alike how b.lines b'.lines n) :
    (b'.locate how n).map Finding.block = (b.locate how n).map Finding.block := by
  by_cases present : n < b.lineCount
  · obtain ⟨f, located, finds⟩ := exists_locate how present
    obtain ⟨g, located', finds'⟩ := exists_locate how (count ▸ present)
    rw [located, located']
    exact congrArg Except.ok ((alike present).block_eq finds finds')
  · rw [locate_missing how present, locate_missing how (count ▸ present), count]

theorem locate_eq (count : b'.lineCount = b.lineCount)
    (alike : n < b.lineCount → Alike how b.lines b'.lines n)
    (flat : n < b.lineCount → (depthAt b'.lines n = 0 ↔ depthAt b.lines n = 0)) :
    b'.locate how n = b.locate how n := by
  by_cases present : n < b.lineCount
  · obtain ⟨f, located, finds⟩ := exists_locate how present
    rw [located]
    exact (b'.locate_eq_ok_iff_finds how n f).mpr ⟨count ▸ present, (alike present).finds (flat present) finds⟩
  · rw [locate_missing how present, locate_missing how (count ▸ present), count]

end Buffer

/-! ### Another indentation -/

namespace Line

/-- The line indented by `f w` spaces where it was indented by `w`. -/
def reindent (f : Nat → Nat) (l : Text) : Text :=
  List.replicate (f (indent l)) ' ' ++ l.dropWhile (· = ' ')

theorem eq_spaces_append (l : Text) : l = List.replicate (indent l) ' ' ++ l.dropWhile (· = ' ') := by
  have spaces : l.takeWhile (· = ' ') = List.replicate (indent l) ' ' := by
    refine List.eq_replicate_iff.mpr ⟨rfl, ?_⟩
    intro c member
    simpa using List.all_eq_true.mp List.all_takeWhile c member
  rw [← spaces, List.takeWhile_append_dropWhile]

theorem isBlank_spaces (k : Nat) : Text.isBlank (List.replicate k ' ') := by
  rw [Text.isBlank, List.all_eq_true]
  intro c member
  rw [List.eq_of_mem_replicate member]
  decide

theorem indent_reindent (f : Nat → Nat) (l : Text) : indent (reindent f l) = f (indent l) := by
  have other : (l.dropWhile (· = ' ')).head? ≠ some ' ' := by
    intro space
    have ends := List.head?_dropWhile_not (· = ' ') l
    rw [space] at ends
    simp at ends
  rw [reindent, indent_append_of_head _ other, indent, List.takeWhile_replicate]
  simp

theorem isBlank_reindent (f : Nat → Nat) (l : Text) : Text.isBlank (reindent f l) = Text.isBlank l := by
  have rest (k : Nat) (t : Text) : Text.isBlank (List.replicate k ' ' ++ t) = Text.isBlank t := by
    rw [Text.isBlank_append, isBlank_spaces, Bool.true_and]
  calc Text.isBlank (reindent f l) = Text.isBlank (l.dropWhile (· = ' ')) := rest _ _
    _ = Text.isBlank (List.replicate (indent l) ' ' ++ l.dropWhile (· = ' ')) := (rest _ _).symm
    _ = Text.isBlank l := by rw [← eq_spaces_append l]

theorem isHeader_reindent (f : Nat → Nat) (l : Text) : isHeader (reindent f l) = isHeader l := by
  have rest (k : Nat) (t : Text) : isHeader (List.replicate k ' ' ++ t) = isHeader t := by
    rw [isHeader, Text.trim, Text.trimStart_append_of_isBlank (isBlank_spaces k), ← Text.trim, isHeader]
  calc isHeader (reindent f l) = isHeader (l.dropWhile (· = ' ')) := rest _ _
    _ = isHeader (List.replicate (indent l) ' ' ++ l.dropWhile (· = ' ')) := (rest _ _).symm
    _ = isHeader l := by rw [← eq_spaces_append l]

end Line

namespace Anchoring

variable {how : Anchoring} {lines : List Text} {f : Nat → Nat} {n s : Nat}

theorem headerAt_reindent (f : Nat → Nat) (lines : List Text) (i : Nat) :
    headerAt (lines.map (Line.reindent f)) i = headerAt lines i := by
  unfold headerAt
  rw [List.getElem?_map]
  cases lines[i]? with
  | none => rfl
  | some l => exact Line.isHeader_reindent f l

theorem depthAt_reindent (f : Nat → Nat) (present : n < lines.length) :
    depthAt (lines.map (Line.reindent f)) n = f (depthAt lines n) := by
  have here : lines[n]? = some lines[n] := List.getElem?_eq_getElem present
  have here' : (lines.map (Line.reindent f))[n]? = some (Line.reindent f lines[n]) := by
    rw [List.getElem?_map, here, Option.map_some]
  rw [depthAt_eq here', depthAt_eq here, Line.indent_reindent]

theorem under_reindent (mono : StrictMono f) (present : s < lines.length) (i : Nat) :
    Under (lines.map (Line.reindent f)) s i ↔ Under lines s i := by
  rw [under_iff, under_iff, depthAt_reindent f present, List.getElem?_map]
  cases lines[i]? with
  | none => simp
  | some l => simp [Line.isBlank_reindent, Line.indent_reindent, mono.lt_iff_lt]

theorem alike_reindent (mono : StrictMono f) (zero : how = .outermost → f 0 = 0) (present : n < lines.length) :
    Alike how lines (lines.map (Line.reindent f)) n where
  count := List.length_map _
  header := headerAt_reindent f lines
  under s i header := under_reindent mono (lt_length_of_headerAt header) i
  shallower s header := by
    rw [depthAt_reindent f present, depthAt_reindent f (lt_length_of_headerAt header)]
    exact mono.lt_iff_lt
  outer outermost s header := by
    rw [depthAt_reindent f (lt_length_of_headerAt header)]
    constructor
    · intro top
      exact mono.injective (top.trans (zero outermost).symm)
    · intro top
      rw [top, zero outermost]

end Anchoring

namespace Buffer

def reindent (f : Nat → Nat) (b : Buffer) : Buffer := .ofLines (b.lines.map (Line.reindent f))

theorem lineCount_reindent (f : Nat → Nat) (b : Buffer) : (b.reindent f).lineCount = b.lineCount :=
  List.length_map _

/-- An indentation that is strictly increasing in the old one moves no innermost block. If lines that are not indented
    stay so, no block moves and each is found on the same ground as before. -/
theorem locate_reindent (b : Buffer) (f : Nat → Nat) (mono : StrictMono f) (n : Nat) :
    ((b.reindent f).locate .innermost n).map Finding.block = (b.locate .innermost n).map Finding.block ∧
      (f 0 = 0 → ∀ how, (b.reindent f).locate how n = b.locate how n) := by
  constructor
  · -- Where `f 0` is not zero a plain line has become an orphan, so only the block is the same.
    exact located_block_eq (lineCount_reindent f b) fun present =>
      Anchoring.alike_reindent mono (fun outermost => nomatch outermost) present
  · intro zero how
    refine locate_eq (lineCount_reindent f b) (fun present =>
      Anchoring.alike_reindent mono (fun _ => zero) present) ?_
    intro present
    rw [show depthAt (b.reindent f).lines n = f (depthAt b.lines n) from Anchoring.depthAt_reindent f present]
    exact ⟨fun top => mono.injective (top.trans zero.symm), fun top => by rw [top, zero]⟩

/-- Line 3 is blank: moved to the right it has become an orphan, still a block by itself. -/
theorem locate_reindent_twoMethods :
    StrictMono (fun w => 2 * w + 1) ∧
      (twoMethods.reindent (fun w => 2 * w + 1)).locate .innermost 3 = .ok ⟨.orphan, .single 3⟩ ∧
      ((twoMethods.reindent (fun w => 2 * w + 1)).locate .innermost 5).map Finding.block =
        .ok ⟨4, 5, by decide⟩ ∧
      StrictMono (fun w => 2 * w) ∧
      (twoMethods.reindent (fun w => 2 * w)).locate .outermost 2 = .ok ⟨.header, ⟨0, 2, by decide⟩⟩ := by
  have moved : StrictMono (fun w => 2 * w + 1) := fun a b less => by dsimp only; omega
  have wider : StrictMono (fun w => 2 * w) := fun a b less => by dsimp only; omega
  refine ⟨moved, rfl, ?_, wider, ?_⟩
  · rw [(locate_reindent twoMethods _ moved 5).1]
    rfl
  · rw [(locate_reindent twoMethods _ wider 2).2 rfl]
    rfl

end Buffer

/-! ### Space at the ends of lines -/

namespace Line

theorem isBody_trimEnd (depth : Nat) (l : Text) : isBody depth (Text.trimEnd l) = isBody depth l := by
  cases text : Text.isBlank l with
  | true => simp [isBody, Text.isBlank_trimEnd, text]
  | false => simp [isBody, Text.isBlank_trimEnd, text, indent_trimEnd text]

end Line

namespace Anchoring

variable {how : Anchoring} {lines lines' : List Text} {n s : Nat}

theorem any_eq_of_trimEnd {p : Text → Bool} (stable : ∀ l, p (Text.trimEnd l) = p l)
    (same : lines'.map Text.trimEnd = lines.map Text.trimEnd) (i : Nat) : lines'[i]?.any p = lines[i]?.any p := by
  have trimmed (ls : List Text) : (ls.map Text.trimEnd)[i]?.any p = ls[i]?.any p := by
    rw [List.getElem?_map]
    cases ls[i]? with
    | none => rfl
    | some l => exact stable l
  rw [← trimmed lines', same, trimmed lines]

theorem depthAt_eq_of_trimEnd (same : lines'.map Text.trimEnd = lines.map Text.trimEnd)
    (header : headerAt lines s) : depthAt lines' s = depthAt lines s := by
  have trimmed {ls : List Text} (header : headerAt ls s) : depthAt (ls.map Text.trimEnd) s = depthAt ls s := by
    obtain ⟨l, here, opens⟩ := (Option.any_eq_true _ _).mp header
    -- A header is not blank, so what is trimmed away is not counted in its depth.
    have text : Text.isBlank l = false := Line.isBlank_of_isHeader opens
    have here' : (ls.map Text.trimEnd)[s]? = some (Text.trimEnd l) := by rw [List.getElem?_map, here, Option.map_some]
    rw [depthAt_eq here', depthAt_eq here, Line.indent_trimEnd text]
  have header' : headerAt lines' s := (any_eq_of_trimEnd Line.isHeader_trimEnd same s).trans header
  rw [← trimmed header', same, trimmed header]

theorem alike_of_trimEnd (same : lines'.map Text.trimEnd = lines.map Text.trimEnd)
    (level : depthAt lines' n = depthAt lines n) : Alike how lines lines' n where
  count := by simpa using congrArg List.length same
  header := any_eq_of_trimEnd Line.isHeader_trimEnd same
  under s i header := by
    unfold Under
    rw [depthAt_eq_of_trimEnd same header, any_eq_of_trimEnd (Line.isBody_trimEnd _) same]
  shallower s header := by rw [depthAt_eq_of_trimEnd same header, level]
  outer _ s header := by rw [depthAt_eq_of_trimEnd same header]

end Anchoring

namespace Buffer

variable {b b' : Buffer} {n : Nat}

theorem locate_eq_of_trimEnd (how : Anchoring) (same : b'.lines.map Text.trimEnd = b.lines.map Text.trimEnd)
    (level : depthAt b'.lines n = depthAt b.lines n) : b'.locate how n = b.locate how n := by
  have alike : Anchoring.Alike how b.lines b'.lines n := Anchoring.alike_of_trimEnd same level
  exact locate_eq alike.count (fun _ => alike) (fun _ => by rw [level])

theorem depthAt_of_line {l : Text} (here : b.line n = .ok l) : depthAt b.lines n = Line.indent l :=
  depthAt_eq ((b.line_eq_ok_iff n l).mp here)

theorem locate_withReturns (t : Text) (how : Anchoring) (n : Nat) :
    (ofText (Text.withReturns t)).locate how n = (ofText t).locate how n := by
  have cut : (ofText (Text.withReturns t)).lines = Text.returned (ofText t).lines := Text.pieces_withReturns t
  have depth (ls : List Text) : depthAt ls n = ((ls.map Line.indent)[n]?).getD 0 := by
    rw [List.getElem?_map]
    rfl
  apply locate_eq_of_trimEnd
  · rw [cut]
    exact Text.map_returned (fun l => Text.trimEnd_append_of_isBlank l (by decide)) _
  · rw [cut, depth, depth, Text.map_returned fun l => Line.indent_append_of_head l (by decide)]

/-- Blank space at the ends of lines moves no block, and neither does another kind of line ending. The line that is
    asked for has to have text in it, or as many leading spaces in both buffers. -/
theorem locate_trimEnd :
    (∀ b b' : Buffer, b'.lines.map Text.trimEnd = b.lines.map Text.trimEnd →
      ∀ (how : Anchoring) (n : Nat) (l l' : Text), b.line n = .ok l → b'.line n = .ok l' →
        Text.isBlank l = false ∨ Line.indent l' = Line.indent l →
          ∃ f, b.locate how n = .ok f ∧ b'.locate how n = .ok f) ∧
      ∀ (t : Text) (how : Anchoring) (n : Nat),
        (ofText (Text.withReturns t)).locate how n = (ofText t).locate how n := by
  refine ⟨?_, locate_withReturns⟩
  intro b b' same how n l l' here here' text
  have read := (b.line_eq_ok_iff n l).mp here
  have read' := (b'.line_eq_ok_iff n l').mp here'
  have trimmed : Text.trimEnd l' = Text.trimEnd l := by
    have both := congrArg (·[n]?) same
    simpa [List.getElem?_map, read, read'] using both
  have level : Line.indent l' = Line.indent l := by
    rcases text with text | level
    · -- The spaces before the text of a line are not at its end.
      have text' : Text.isBlank l' = false := by rw [← Text.isBlank_trimEnd, trimmed, Text.isBlank_trimEnd, text]
      rw [← Line.indent_trimEnd text', trimmed, Line.indent_trimEnd text]
    · exact level
  obtain ⟨f, located, _⟩ := exists_locate how (List.getElem?_eq_some_iff.mp read).1
  refine ⟨f, located, ?_⟩
  rw [← located]
  exact locate_eq_of_trimEnd how same (by rw [depthAt_of_line here', depthAt_of_line here, level])

/-- The two methods with space after some lines, and with spaces for the line between them. -/
theorem locate_trimEnd_twoMethods :
    let spaced : Buffer := .ofLines ["class A: ".toList, "  def f():\r".toList, "    x\t".toList, "    ".toList,
      "  def g():".toList, "    y  ".toList]
    spaced.lines.map Text.trimEnd = twoMethods.lines.map Text.trimEnd ∧
      spaced.locate .outermost 2 = .ok ⟨.header, ⟨0, 2, by decide⟩⟩ ∧
      spaced.locate .innermost 5 = .ok ⟨.header, ⟨4, 5, by decide⟩⟩ := by
  intro spaced
  have same : spaced.lines.map Text.trimEnd = twoMethods.lines.map Text.trimEnd := by decide
  obtain ⟨f, before, after⟩ :=
    locate_trimEnd.1 twoMethods spaced same .outermost 2 "    x".toList "    x\t".toList rfl rfl (.inl (by decide))
  obtain ⟨g, before', after'⟩ :=
    locate_trimEnd.1 twoMethods spaced same .innermost 5 "    y".toList "    y  ".toList rfl rfl (.inl (by decide))
  refine ⟨same, ?_, ?_⟩
  · rw [after, ← before]
    rfl
  · rw [after', ← before']
    rfl

end Buffer
end Offside
