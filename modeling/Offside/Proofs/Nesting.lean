import Offside.Proofs.Anchor

/-!
Blocks located for different lines, by the same anchoring or by two, never overlap in part (`located_laminar`).
Outermost blocks partition the lines they cover, a line of an innermost block has its own block within it, and
the innermost block of a line is the outermost one, lies inside it, or comes after it.
-/

namespace Offside

open Block (depthAt depthAt_eq headedBy Laminar)

namespace Anchoring

variable {how : Anchoring} {lines : List Text} {n m s : Nat} {f g : Finding}

/-- A header serves every line of the block begun at it. -/
theorem Serves.of_mem (serves : how.Serves lines n s) (inside : m ∈ headedBy lines s) :
    how.Serves lines m s := by
  refine ⟨inside.1, serves.header, ?_, serves.outer⟩
  by_cases same : m = s
  · exact .inl same.symm
  · exact .inr (Block.under_of_mem_headedBy serves.present inside same).depth_lt

theorem Serves.innermost (serves : how.Serves lines n s) : Serves .innermost lines n s :=
  ⟨serves.notBelow, serves.header, serves.shallower, fun other => nomatch other⟩

/-- A line that some header serves is anchored at that header or at one between the two. -/
theorem Finds.header_of_serves (finds : Finds how lines n f) (serves : how.Serves lines n s) :
    ∃ t, s ≤ t ∧ how.Serves lines n t ∧ f = ⟨.header, headedBy lines t⟩ := by
  cases finds with
  | header nearest => exact ⟨_, nearest.2 serves, nearest.1, rfl⟩
  | plain none _ => exact absurd serves (none s)
  | orphan none _ => exact absurd serves (none s)

theorem Finds.first_le (finds : Finds how lines n f) : f.block.first ≤ n := by
  cases finds with
  | header nearest => exact nearest.1.notBelow
  | plain _ _ => exact Nat.le_refl n
  | orphan _ _ => exact Nat.le_refl n

theorem Finds.lt_of_mem (finds : Finds how lines n f) (present : n < lines.length) (inside : m ∈ f.block) :
    m < lines.length := by
  cases finds with
  | header nearest =>
    exact Nat.lt_of_le_of_lt inside.2 (Block.last_headedBy_lt nearest.1.present)
  | plain _ _ => exact (Block.mem_single m n).mp inside ▸ present
  | orphan _ _ => exact (Block.mem_single m n).mp inside ▸ present

theorem Finds.first (finds : Finds how lines n f) : Finds how lines f.block.first f := by
  cases finds with
  | header nearest =>
    have serves := nearest.1.of_mem (Block.self_mem_headedBy lines _)
    exact .header ⟨serves, fun t other => other.notBelow⟩
  | plain none flat => exact .plain none flat
  | orphan none indented => exact .orphan none indented

/-- What is found for a line of a located block: the same, or the block begun at a header in it. -/
theorem Finds.of_mem (finds : Finds how lines n f) (finds' : Finds how lines m g) (inside : m ∈ f.block) :
    g = f ∨ ∃ s t, how.Serves lines n s ∧ how.Serves lines m t ∧ t ∈ headedBy lines s ∧
      f = ⟨.header, headedBy lines s⟩ ∧ g = ⟨.header, headedBy lines t⟩ := by
  have alone {k : Ground} (self : Finds how lines n ⟨k, .single n⟩) (same : m ∈ Block.single n) :
      g = ⟨k, .single n⟩ := by
    rw [Block.mem_single] at same
    subst same
    exact finds'.unique self
  cases finds with
  | @header s nearest =>
    obtain ⟨t, notAbove, serves, rfl⟩ := finds'.header_of_serves (nearest.1.of_mem inside)
    exact .inr ⟨s, t, nearest.1, serves, ⟨notAbove, Nat.le_trans serves.notBelow inside.2⟩, rfl, rfl⟩
  | plain none flat => exact .inl (alone (.plain none flat) inside)
  | orphan none indented => exact .inl (alone (.orphan none indented) inside)

theorem Finds.subset_of_mem (finds : Finds how lines n f) (finds' : Finds how lines m g) (inside : m ∈ f.block) :
    g.block ⊆ f.block := by
  obtain rfl | ⟨s, t, serves, _, within, rfl, rfl⟩ := finds.of_mem finds' inside
  · exact Block.subset_refl _
  · exact Block.headedBy_subset serves.present within

/-- No line under an outermost header is itself one, so all lines of its block are anchored at it. -/
theorem Finds.eq_of_mem_outermost (finds : Finds .outermost lines n f) (finds' : Finds .outermost lines m g)
    (inside : m ∈ f.block) : g = f := by
  obtain rfl | ⟨s, t, serves, serves', within, rfl, rfl⟩ := finds.of_mem finds' inside
  · rfl
  · by_cases same : t = s
    · rw [same]
    · -- Another header would be deeper than `s`, and outermost headers are not indented at all.
      have under := Block.under_of_mem_headedBy serves.present within same
      have deeper := under.depth_lt
      rw [serves'.outer rfl] at deeper
      exact absurd deeper (Nat.not_lt_zero _)

theorem Finds.single_or_headed (finds : Finds how lines n f) :
    f.block = .single n ∨ ∃ s < lines.length, f.block = headedBy lines s := by
  cases finds with
  | header nearest => exact .inr ⟨_, nearest.1.present, rfl⟩
  | plain _ _ => exact .inl rfl
  | orphan _ _ => exact .inl rfl

theorem Finds.laminar {how' : Anchoring} (finds : Finds how lines n f) (finds' : Finds how' lines m g) :
    Laminar f.block g.block := by
  rcases finds.single_or_headed with alone | ⟨s, hs, headed⟩
  · rw [alone]
    exact Block.laminar_single n g.block
  · rcases finds'.single_or_headed with alone | ⟨t, ht, headed'⟩
    · rw [alone]
      exact (Block.laminar_single m f.block).symm
    · rw [headed, headed']
      exact Block.laminar_headedBy hs ht

theorem Finds.refined (outer : Finds .outermost lines n f) (inner : Finds .innermost lines n g)
    (serves : Serves .outermost lines n s) :
    f.block.first ≤ g.block.first ∧ g.block.first ≤ n ∧
      (g.block ⊆ f.block ∨ f.block.last < g.block.first) ∧ (n ∈ f.block → g.block ⊆ f.block) := by
  obtain ⟨a, _, serves', rfl⟩ := outer.header_of_serves serves
  obtain ⟨t, notAbove, serves'', rfl⟩ := inner.header_of_serves serves'.innermost
  have within (reached : t ≤ (headedBy lines a).last) : headedBy lines t ⊆ headedBy lines a :=
    Block.headedBy_subset serves'.present ⟨notAbove, reached⟩
  refine ⟨notAbove, serves''.notBelow, ?_, ?_⟩
  · rcases Nat.lt_or_ge (headedBy lines a).last t with after | reached
    · exact .inr after
    · exact .inl (within reached)
  · intro inside
    exact within (Nat.le_trans serves''.notBelow inside.2)

theorem find_of_flat {l : Text} (flat : Line.indent l = 0) :
    find .innermost lines n l = find .outermost lines n l := by
  simp [find, anchorsItself, flat]

end Anchoring

/-! ### Located blocks -/

namespace Buffer

open Anchoring (find_of_flat)

theorem locate_of_mem_outermost {b : Buffer} {n m : Nat} {f : Finding} (located : b.locate .outermost n = .ok f)
    (inside : m ∈ f.block) : b.locate .outermost m = .ok f := by
  obtain ⟨present, finds⟩ := (b.locate_eq_ok_iff_finds _ _ _).mp located
  obtain ⟨g, located', finds'⟩ := exists_locate .outermost (finds.lt_of_mem present inside)
  rw [located', finds.eq_of_mem_outermost finds' inside]

def twoMethods : Buffer :=
  .ofLines ["class A:".toList, "  def f():".toList, "    x".toList, [], "  def g():".toList, "    y".toList]

/-- Outermost blocks partition the lines they cover: each line of a block is located in that same block, so any two
    located blocks are equal or have no line in common. -/
theorem outermost_partition (b : Buffer) (n : Nat) (present : n < b.lineCount) :
    ∃ f, b.locate .outermost n = .ok f ∧ (∀ m ∈ f.block, b.locate .outermost m = .ok f) ∧
      b.locate .outermost f.block.first = .ok f ∧
      ∀ m < b.lineCount, ∃ g, b.locate .outermost m = .ok g ∧ (g.block = f.block ∨ g.block.Disjoint f.block) := by
  obtain ⟨f, located, finds⟩ := exists_locate .outermost present
  have same {m : Nat} (inside : m ∈ f.block) : b.locate .outermost m = .ok f :=
    locate_of_mem_outermost located inside
  refine ⟨f, located, fun m => same, same f.block.first_mem, ?_⟩
  intro m here
  obtain ⟨g, located', finds'⟩ := exists_locate .outermost here
  refine ⟨g, located', ?_⟩
  by_cases shared : ∃ i, i ∈ g.block ∧ i ∈ f.block
  · obtain ⟨i, inG, inF⟩ := shared
    have equal : g = f := Except.ok.inj ((locate_of_mem_outermost located' inG).symm.trans (same inF))
    exact .inl (congrArg Finding.block equal)
  · refine .inr ?_
    intro i inG inF
    exact shared ⟨i, inG, inF⟩

theorem outermost_partition_twoMethods :
    2 < twoMethods.lineCount ∧
      ∀ m ∈ (⟨0, 2, by decide⟩ : Block), twoMethods.locate .outermost m = .ok ⟨.header, ⟨0, 2, by decide⟩⟩ := by
  obtain ⟨f, located, same, _⟩ := outermost_partition twoMethods 2 (by decide)
  have found : twoMethods.locate .outermost 2 = .ok ⟨.header, ⟨0, 2, by decide⟩⟩ := rfl
  obtain rfl := Except.ok.inj (found.symm.trans located)
  exact ⟨by decide, same⟩

/-- Located blocks never overlap in part, however each of them is anchored. -/
theorem located_laminar (b : Buffer) (how how' : Anchoring) (n m : Nat) (present : n < b.lineCount)
    (present' : m < b.lineCount) :
    ∃ f g, b.locate how n = .ok f ∧ b.locate how' m = .ok g ∧
      (f.block.Disjoint g.block ∨ f.block ⊆ g.block ∨ g.block ⊆ f.block) := by
  obtain ⟨f, located, finds⟩ := exists_locate how present
  obtain ⟨g, located', finds'⟩ := exists_locate how' present'
  exact ⟨f, g, located, located', finds.laminar finds'⟩

theorem located_laminar_twoMethods :
    2 < twoMethods.lineCount ∧ 1 < twoMethods.lineCount ∧
      ∃ f g, twoMethods.locate .outermost 2 = .ok f ∧ twoMethods.locate .innermost 1 = .ok g ∧
        (f.block.Disjoint g.block ∨ f.block ⊆ g.block ∨ g.block ⊆ f.block) :=
  ⟨by decide, by decide, located_laminar twoMethods .outermost .innermost 2 1 (by decide) (by decide)⟩

/-- Innermost blocks are closed downward: a line of a block has its own block within it, and the line a block begins at
    has that block. -/
theorem innermost_within (b : Buffer) (n : Nat) (present : n < b.lineCount) :
    ∃ f, b.locate .innermost n = .ok f ∧
      (∀ m ∈ f.block, ∃ g, b.locate .innermost m = .ok g ∧
        f.block.first ≤ g.block.first ∧ g.block.last ≤ f.block.last) ∧
      b.locate .innermost f.block.first = .ok f := by
  obtain ⟨f, located, finds⟩ := exists_locate .innermost present
  refine ⟨f, located, ?_, ?_⟩
  · intro m inside
    obtain ⟨g, located', finds'⟩ := exists_locate .innermost (finds.lt_of_mem present inside)
    exact ⟨g, located', (Block.subset_iff _ _).mp (finds.subset_of_mem finds' inside)⟩
  · exact (b.locate_eq_ok_iff_finds _ _ _).mpr ⟨finds.lt_of_mem present f.block.first_mem, finds.first⟩

theorem innermost_within_twoMethods :
    0 < twoMethods.lineCount ∧ ∃ f, twoMethods.locate .innermost 0 = .ok f ∧
      (∀ m ∈ f.block, ∃ g, twoMethods.locate .innermost m = .ok g ∧
        f.block.first ≤ g.block.first ∧ g.block.last ≤ f.block.last) ∧
      twoMethods.locate .innermost f.block.first = .ok f :=
  ⟨by decide, innermost_within twoMethods 0 (by decide)⟩

/-- The two anchorings agree on a line that is not indented. On an indented one with an outermost header above it the
    innermost block begins no higher than the outermost one, and lies inside it or after it; inside it wherever
    the outermost block reaches the line. -/
theorem innermost_refines_outermost (b : Buffer) (n : Nat) (l : Text) (here : b.line n = .ok l) :
    ∃ o i, b.locate .outermost n = .ok o ∧ b.locate .innermost n = .ok i ∧
      (Line.indent l = 0 → i = o) ∧
      (0 < Line.indent l →
        (∃ a < n, ∃ h, b.line a = .ok h ∧ Line.indent h = 0 ∧ Line.isHeader h = true) →
          o.block.first ≤ i.block.first ∧ i.block.first ≤ n ∧
            (i.block ⊆ o.block ∨ o.block.last < i.block.first) ∧ (n ∈ o.block → i.block ⊆ o.block)) := by
  have read : b.lines[n]? = some l := (b.line_eq_ok_iff n l).mp here
  have present : n < b.lineCount := (List.getElem?_eq_some_iff.mp read).1
  obtain ⟨o, located, finds⟩ := exists_locate .outermost present
  obtain ⟨i, located', finds'⟩ := exists_locate .innermost present
  refine ⟨o, i, located, located', ?_, ?_⟩
  · intro flat
    rw [← (Anchoring.find_eq_iff read i).mpr finds', ← (Anchoring.find_eq_iff read o).mpr finds]
    exact find_of_flat flat
  · rintro indented ⟨a, above, h, top, flat, header⟩
    have top' : b.lines[a]? = some h := (b.line_eq_ok_iff a h).mp top
    have serves : Anchoring.Serves .outermost b.lines n a := by
      refine ⟨Nat.le_of_lt above, by rw [headerAt_eq top']; exact header, .inr ?_, ?_⟩
      · rw [depthAt_eq top', depthAt_eq read, flat]
        exact indented
      · intro _
        rw [depthAt_eq top', flat]
    exact finds.refined finds' serves

theorem innermost_refines_outermost_twoMethods :
    (∃ o, twoMethods.locate .outermost 0 = .ok o ∧ twoMethods.locate .innermost 0 = .ok o) ∧
      ∃ o i, twoMethods.locate .outermost 5 = .ok o ∧ twoMethods.locate .innermost 5 = .ok i ∧
        o.block.first ≤ i.block.first ∧ i.block.first ≤ 5 ∧
          (i.block ⊆ o.block ∨ o.block.last < i.block.first) ∧ (5 ∈ o.block → i.block ⊆ o.block) := by
  obtain ⟨o, i, outer, inner, same, _⟩ := innermost_refines_outermost twoMethods 0 "class A:".toList rfl
  obtain ⟨o', i', outer', inner', _, refined⟩ := innermost_refines_outermost twoMethods 5 "    y".toList rfl
  have equal : i = o := same (by decide)
  refine ⟨⟨o, outer, equal ▸ inner⟩, o', i', outer', inner', refined (by decide) ?_⟩
  exact ⟨0, by decide, "class A:".toList, rfl, by decide, by decide⟩

end Buffer
end Offside
