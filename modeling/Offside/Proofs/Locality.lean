import Offside.Proofs.Nesting

/-!
A block depends on nothing but its own lines, those down to the line that was asked for, and one line after it: the
search upward ends at the first line of the block, and the line after the block ends the search downward. An orphan
is different: it is one because of all that is above it.
-/

namespace Offside

open Block (depthAt depthAt_eq headedBy Under mem_headedBy_iff)

def Block.movedTo (b : Block) (k : Nat) : Block := ⟨k, k + (b.last - b.first), Nat.le_add_right ..⟩

theorem Block.movedTo_single (n k : Nat) : (single n).movedTo k = single k := by
  simp [movedTo, single]

/-- Lines `s` to `m` are found in other lines from line `k` on, and are missing there where they are missing. -/
def Copied (lines lines' : List Text) (s m k : Nat) : Prop := ∀ i, s + i ≤ m → lines'[k + i]? = lines[s + i]?

namespace Copied

variable {how : Anchoring} {lines lines' : List Text} {s m k i j : Nat}

theorem depthAt_eq (copied : Copied lines lines' s m k) (within : s + i ≤ m) :
    depthAt lines' (k + i) = depthAt lines (s + i) := by
  rw [depthAt, depthAt, copied i within]

theorem headerAt_eq (copied : Copied lines lines' s m k) (within : s + i ≤ m) :
    headerAt lines' (k + i) = headerAt lines (s + i) := by
  rw [headerAt, headerAt, copied i within]

theorem under_iff (copied : Copied lines lines' s m k) (hi : s + i ≤ m) (hj : s + j ≤ m) :
    Under lines' (k + i) (k + j) ↔ Under lines (s + i) (s + j) := by
  rw [Under, Under, copied.depthAt_eq hi, copied j hj]

theorem serves_iff (copied : Copied lines lines' s m k) (le : i ≤ j) (within : s + j ≤ m) :
    how.Serves lines' (k + j) (k + i) ↔ how.Serves lines (s + j) (s + i) := by
  have within' : s + i ≤ m := by omega
  have same : k + i = k + j ↔ s + i = s + j := by omega
  constructor
  · rintro ⟨_, header, shallower, outer⟩
    rw [copied.headerAt_eq within'] at header
    rw [copied.depthAt_eq within', copied.depthAt_eq within, same] at shallower
    rw [copied.depthAt_eq within'] at outer
    exact ⟨Nat.add_le_add_left le s, header, shallower, outer⟩
  · rintro ⟨_, header, shallower, outer⟩
    rw [← copied.headerAt_eq within'] at header
    rw [← copied.depthAt_eq within', ← copied.depthAt_eq within, ← same] at shallower
    rw [← copied.depthAt_eq within'] at outer
    exact ⟨Nat.add_le_add_left le k, header, shallower, outer⟩

theorem headedBy_eq (copied : Copied lines lines' s m k) (present : s < lines.length)
    (within : (headedBy lines s).last + 1 ≤ m) : headedBy lines' k = (headedBy lines s).movedTo k := by
  have least : s ≤ (headedBy lines s).last := (headedBy lines s).first_le_last
  obtain ⟨d, ends⟩ := Nat.exists_eq_add_of_le least
  have begins : lines'[k]? = some lines[s] := by
    rw [← List.getElem?_eq_getElem present]
    exact copied 0 (by omega)
  have present' : k < lines'.length := (List.getElem?_eq_some_iff.mp begins).1
  have same {i : Nat} (upTo : i ≤ d + 1) : Under lines' k (k + i) ↔ Under lines s (s + i) :=
    copied.under_iff (i := 0) (by omega) (by omega)
  have last : (headedBy lines' k).last = k + d := by
    apply Block.last_headedBy_eq present' (Nat.le_add_right k d)
    · intro i below upTo
      obtain ⟨j, rfl⟩ := Nat.exists_eq_add_of_le (Nat.le_of_lt below)
      have under := ((mem_headedBy_iff present _).mp (headedBy lines s).last_mem).2 (s + j) (by omega) (by omega)
      exact (same (by omega)).mpr under
    · rw [Nat.add_assoc, same (Nat.le_refl _), ← Nat.add_assoc, ← ends]
      exact Block.not_under_after present
  have moved : ((headedBy lines s).movedTo k).last = k + ((headedBy lines s).last - s) := rfl
  refine Block.ext rfl ?_
  rw [last, moved, ends, Nat.add_sub_cancel_left]

end Copied

namespace Anchoring

variable {how : Anchoring} {lines lines' : List Text} {n k : Nat} {f : Finding}

/-- What is found does not change when the block is copied together with the line after it and all lines down to the
    one that was asked for. -/
theorem Finds.copied (finds : Finds how lines n f) (known : f.ground ≠ .orphan)
    (copied : Copied lines lines' f.block.first (max n (f.block.last + 1)) k) :
    Finds how lines' (k + (n - f.block.first)) ⟨f.ground, f.block.movedTo k⟩ := by
  cases finds with
  | @header s nearest =>
    obtain ⟨d, rfl⟩ := Nat.exists_eq_add_of_le nearest.1.notBelow
    simp only [Block.first_headedBy, Nat.add_sub_cancel_left] at copied ⊢
    rw [← copied.headedBy_eq nearest.1.present (by omega)]
    refine .header ⟨(copied.serves_iff (Nat.zero_le d) (by omega)).mpr nearest.1, ?_⟩
    intro t serves
    apply Nat.le_of_not_lt
    intro below
    -- A nearer header in the copy would have been one in the original.
    obtain ⟨i, rfl⟩ := Nat.exists_eq_add_of_le (Nat.le_of_lt below)
    have upTo : i ≤ d := by have := serves.notBelow; omega
    have notAfter := nearest.2 ((copied.serves_iff upTo (by omega)).mp serves)
    omega
  | plain none flat =>
    change Copied lines lines' n (max n (n + 1)) k at copied
    change Finds how lines' (k + (n - n)) ⟨.plain, (Block.single n).movedTo k⟩
    rw [Block.movedTo_single, Nat.sub_self, Nat.add_zero]
    have flat' : depthAt lines' k = 0 := (copied.depthAt_eq (i := 0) (by omega)).trans flat
    refine .plain ?_ flat'
    intro t serves
    -- Nothing is less indented than a line that is not indented, whatever stands above it.
    rcases serves.shallower with rfl | shallower
    · exact none n ((copied.serves_iff (Nat.le_refl 0) (by omega)).mp serves)
    · rw [flat'] at shallower
      exact absurd shallower (Nat.not_lt_zero _)
  | orphan _ _ => exact absurd rfl known

/-- Whether a block may begin at the line `l` for any other reason than the want of a header. -/
def mayBegin (how : Anchoring) (l : Text) : Bool :=
  match how with
  | .outermost => Line.indent l = 0
  | .innermost => Line.isHeader l || Line.indent l = 0

theorem Finds.ground_ne_orphan {l : Text} (finds : Finds how lines n f) (begins : lines[f.block.first]? = some l)
    (may : how.mayBegin l) : f.ground ≠ .orphan := by
  cases finds with
  | header _ => exact fun other => nomatch other
  | plain _ _ => exact fun other => nomatch other
  | orphan none indented =>
    have here : lines[n]? = some l := begins
    rw [depthAt_eq here] at indented
    cases how with
    | outermost => exact absurd (by simpa [mayBegin] using may) indented
    | innermost =>
      have header : Line.isHeader l = true := by simpa [mayBegin, indented] using may
      exact absurd ((serves_self_iff here).mpr (by simp [anchorsItself, header])) (none n)

end Anchoring

namespace Buffer

variable {b : Buffer} {s m : Nat}

theorem copied_excerpt (present : m < b.lineCount) (above below : List Text) :
    Copied b.lines (above ++ b.excerpt s m ++ below) s m above.length := by
  intro i within
  have length : (b.excerpt s m).length = m + 1 - s := b.length_excerpt s present
  rw [List.append_assoc, List.getElem?_append_right (Nat.le_add_right _ _), Nat.add_sub_cancel_left,
    List.getElem?_append_left (by omega), getElem?_excerpt b s within]

/-- An excerpt that goes to the end of the buffer shows where the lines end. -/
theorem copied_excerpt_end (ends : m + 1 = b.lineCount) (above : List Text) (past : Nat) :
    Copied b.lines (above ++ b.excerpt s m) s past above.length := by
  intro i _
  have all : b.lines.take (m + 1) = b.lines := by
    rw [ends]
    exact List.take_length
  rw [List.getElem?_append_right (Nat.le_add_right _ _), Nat.add_sub_cancel_left, excerpt, all, List.getElem?_drop]

theorem locate_of_copied {how : Anchoring} {n k : Nat} {f : Finding} {ls : List Text}
    (finds : how.Finds b.lines n f) (known : f.ground ≠ .orphan) (present : n < b.lineCount)
    (copied : Copied b.lines ls f.block.first (max n (f.block.last + 1)) k) :
    (ofLines ls).locate how (k + (n - f.block.first)) = .ok ⟨f.ground, f.block.movedTo k⟩ := by
  have least : f.block.first ≤ n := finds.first_le
  have there : ls[k + (n - f.block.first)]? = some b.lines[n] := by
    rw [copied _ (by omega), Nat.add_sub_cancel' least]
    exact List.getElem?_eq_getElem present
  refine ((ofLines ls).locate_eq_ok_iff_finds how _ _).mpr ⟨?_, finds.copied known copied⟩
  exact (List.getElem?_eq_some_iff.mp there).1

/-- Whatever stands above and below, the lines of a block, those down to the line that was asked for, and one line after
    the block, if there is one, are enough to find the block again. -/
theorem locate_excerpt (b : Buffer) (how : Anchoring) (n : Nat) (present : n < b.lineCount) :
    ∃ f l, b.locate how n = .ok f ∧ b.line f.block.first = .ok l ∧
      (how.mayBegin l → ∀ above below : List Text,
        (f.block.last + 1 < b.lineCount →
          (ofLines (above ++ b.excerpt f.block.first (max n (f.block.last + 1)) ++ below)).locate how
            (above.length + (n - f.block.first)) = .ok ⟨f.ground, f.block.movedTo above.length⟩) ∧
        (f.block.last + 1 = b.lineCount →
          (ofLines (above ++ b.excerpt f.block.first f.block.last)).locate how
            (above.length + (n - f.block.first)) = .ok ⟨f.ground, f.block.movedTo above.length⟩)) := by
  obtain ⟨f, located, finds⟩ := exists_locate how present
  have there : f.block.first < b.lines.length := finds.lt_of_mem present f.block.first_mem
  have begins : b.lines[f.block.first]? = some b.lines[f.block.first] := List.getElem?_eq_getElem there
  refine ⟨f, _, located, (b.line_eq_ok_iff _ _).mpr begins, ?_⟩
  intro may above below
  have known : f.ground ≠ .orphan := finds.ground_ne_orphan begins may
  constructor
  · intro more
    exact locate_of_copied finds known present (copied_excerpt (by omega) above below)
  · intro ends
    exact locate_of_copied finds known present (copied_excerpt_end ends above _)

/-- Lines 0 to 5 are copied, since the block of line 5 ends above that line. -/
theorem locate_excerpt_twoMethods :
    5 < twoMethods.lineCount ∧ Anchoring.outermost.mayBegin "class A:".toList ∧
      (ofLines (["if x:".toList] ++ twoMethods.excerpt 0 5 ++ ["      z".toList])).locate .outermost (1 + 5) =
        .ok ⟨.header, ⟨1, 3, by decide⟩⟩ := by
  obtain ⟨f, l, located, begins, moved⟩ := locate_excerpt twoMethods .outermost 5 (by decide)
  have found : twoMethods.locate .outermost 5 = .ok ⟨.header, ⟨0, 2, by decide⟩⟩ := rfl
  obtain rfl := Except.ok.inj (found.symm.trans located)
  have first : twoMethods.line 0 = .ok "class A:".toList := rfl
  obtain rfl := Except.ok.inj (first.symm.trans begins)
  exact ⟨by decide, by decide, (moved (by decide) ["if x:".toList] ["      z".toList]).1 (by decide)⟩

end Buffer
end Offside
