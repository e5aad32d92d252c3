import Mathlib.Order.Bounds.Basic
import Offside.Proofs.Extent

/-!
`Serves` says which headers a line may be anchored at, and `Finds` what is found for a line: the block begun
at the greatest of them, or the line by itself. The search agrees with it on every line (`find_eq_iff`), and
the results about located blocks are derived from `Finds` alone. The fact that carries them is that a header
serves every line of the block begun at it (`Serves.of_mem`).
-/

namespace Offside

open Block (depthAt depthAt_eq headedBy)

def headerAt (lines : List Text) (i : Nat) : Bool := lines[i]?.any Line.isHeader

theorem headerAt_eq {lines : List Text} {i : Nat} {l : Text} (here : lines[i]? = some l) :
    headerAt lines i = Line.isHeader l := by
  simp [headerAt, here]

theorem lt_length_of_headerAt {lines : List Text} {i : Nat} (header : headerAt lines i) : i < lines.length := by
  obtain ⟨l, here, _⟩ := (Option.any_eq_true _ _).mp header
  exact (List.getElem?_eq_some_iff.mp here).1

namespace Anchoring

variable {how : Anchoring} {lines : List Text} {n m s : Nat} {f g : Finding}

/-- Line `s` is a header that line `n` may be anchored at: line `n` itself, or one above it that is less indented.
    Of headers that are indented the outermost anchoring wants none. -/
structure Serves (how : Anchoring) (lines : List Text) (n s : Nat) : Prop where
  notBelow : s ≤ n
  header : headerAt lines s
  shallower : s = n ∨ depthAt lines s < depthAt lines n
  outer : how = .outermost → depthAt lines s = 0

/-- What is found for line `n`, told without a search. -/
inductive Finds (how : Anchoring) (lines : List Text) (n : Nat) : Finding → Prop
  | header {s : Nat} : IsGreatest {t | how.Serves lines n t} s → Finds how lines n ⟨.header, headedBy lines s⟩
  | plain : (∀ t, ¬ how.Serves lines n t) → depthAt lines n = 0 → Finds how lines n ⟨.plain, .single n⟩
  | orphan : (∀ t, ¬ how.Serves lines n t) → depthAt lines n ≠ 0 → Finds how lines n ⟨.orphan, .single n⟩

theorem Serves.present (serves : how.Serves lines n s) : s < lines.length :=
  lt_length_of_headerAt serves.header

theorem serves_self_iff {l : Text} (here : lines[n]? = some l) :
    how.Serves lines n n ↔ how.anchorsItself l = true := by
  constructor
  · rintro ⟨_, header, _, outer⟩
    rw [headerAt_eq here] at header
    rw [depthAt_eq here] at outer
    cases how with
    | outermost => simp [anchorsItself, header, outer rfl]
    | innermost => simp [anchorsItself, header]
  · intro itself
    simp only [anchorsItself, Bool.and_eq_true, Bool.or_eq_true, decide_eq_true_eq] at itself
    refine ⟨Nat.le_refl n, by rw [headerAt_eq here]; exact itself.1, .inl rfl, ?_⟩
    intro outermost
    subst outermost
    rw [depthAt_eq here]
    simpa using itself.2

theorem serves_above_iff {l : Text} (here : lines[n]? = some l) (above : s < n) :
    how.Serves lines n s ↔ Line.indent l ≠ 0 ∧ lines[s]?.any (how.admits (Line.indent l)) = true := by
  have there : s < lines.length := Nat.lt_trans above (List.getElem?_eq_some_iff.mp here).1
  have read : lines[s]? = some lines[s] := List.getElem?_eq_getElem there
  rw [read, Option.any_some]
  unfold admits
  constructor
  · rintro ⟨_, header, shallower, outer⟩
    rw [headerAt_eq read] at header
    rw [depthAt_eq read, depthAt_eq here] at shallower
    rw [depthAt_eq read] at outer
    have less := shallower.resolve_left (Nat.ne_of_lt above)
    refine ⟨by omega, ?_⟩
    cases how with
    | outermost => simp [header, outer rfl]
    | innermost => simp [header, less]
  · rintro ⟨indented, admitted⟩
    obtain ⟨header, shallow⟩ := Bool.and_eq_true_iff.mp admitted
    refine ⟨Nat.le_of_lt above, by rw [headerAt_eq read]; exact header, .inr ?_, ?_⟩
    · rw [depthAt_eq read, depthAt_eq here]
      cases how with
      | outermost =>
        have top : Line.indent lines[s] = 0 := by simpa using shallow
        omega
      | innermost => simpa using shallow
    · intro outermost
      subst outermost
      rw [depthAt_eq read]
      simpa using shallow

theorem finds_find {l : Text} (here : lines[n]? = some l) : Finds how lines n (how.find lines n l) := by
  have self : how.Serves lines n n ↔ how.anchorsItself l = true := serves_self_iff here
  unfold find
  split
  · next itself => exact .header ⟨self.mpr itself, fun t serves => serves.notBelow⟩
  · next notItself =>
    have strict {t : Nat} (serves : how.Serves lines n t) : t < n := by
      refine Nat.lt_of_le_of_ne serves.notBelow ?_
      intro same
      subst same
      exact notItself (self.mp serves)
    split
    · next flat =>
      refine .plain ?_ (by rw [depthAt_eq here]; exact flat)
      intro t serves
      exact ((serves_above_iff here (strict serves)).mp serves).1 flat
    · next indented =>
      split
      · next s nearest =>
        obtain ⟨above, admitted, none⟩ := (nearestAbove_eq_some_iff _ _ _ _).mp nearest
        refine .header ⟨(serves_above_iff here above).mpr ⟨indented, admitted⟩, ?_⟩
        intro t serves
        apply Nat.le_of_not_lt
        intro later
        -- A header after `s` would have been met first on the way up.
        have between := none t later (strict serves)
        rw [((serves_above_iff here (strict serves)).mp serves).2] at between
        cases between
      · next nothing =>
        refine .orphan ?_ (by rw [depthAt_eq here]; exact indented)
        intro t serves
        have refused := (nearestAbove_eq_none_iff _ _ _).mp nothing t (strict serves)
        rw [((serves_above_iff here (strict serves)).mp serves).2] at refused
        cases refused

theorem Finds.unique (first : Finds how lines n f) (second : Finds how lines n g) : f = g := by
  cases first with
  | header nearest =>
    cases second with
    | header nearest' => rw [nearest.unique nearest']
    | plain none _ => exact absurd nearest.1 (none _)
    | orphan none _ => exact absurd nearest.1 (none _)
  | plain none flat =>
    cases second with
    | header nearest => exact absurd nearest.1 (none _)
    | plain _ _ => rfl
    | orphan _ indented => exact absurd flat indented
  | orphan none indented =>
    cases second with
    | header nearest => exact absurd nearest.1 (none _)
    | plain _ flat => exact absurd flat indented
    | orphan _ _ => rfl

theorem find_eq_iff {l : Text} (here : lines[n]? = some l) (f : Finding) :
    how.find lines n l = f ↔ Finds how lines n f := by
  constructor
  · rintro rfl
    exact finds_find here
  · exact (finds_find here).unique

theorem exists_finds (how : Anchoring) (present : n < lines.length) : ∃ f, Finds how lines n f :=
  ⟨_, finds_find (List.getElem?_eq_getElem present)⟩

end Anchoring

theorem Buffer.locate_eq_ok_iff_finds (b : Buffer) (how : Anchoring) (n : Nat) (f : Finding) :
    b.locate how n = .ok f ↔ n < b.lineCount ∧ how.Finds b.lines n f := by
  rw [locate_eq_ok_iff]
  constructor
  · rintro ⟨l, here, answered⟩
    exact ⟨(List.getElem?_eq_some_iff.mp here).1, (Anchoring.find_eq_iff here f).mp answered⟩
  · rintro ⟨present, finds⟩
    have here : b.lines[n]? = some b.lines[n] := List.getElem?_eq_getElem present
    exact ⟨_, here, (Anchoring.find_eq_iff here f).mpr finds⟩

theorem Buffer.exists_locate {b : Buffer} (how : Anchoring) {n : Nat} (present : n < b.lineCount) :
    ∃ f, b.locate how n = .ok f ∧ how.Finds b.lines n f := by
  obtain ⟨f, finds⟩ := Anchoring.exists_finds how present
  exact ⟨f, (b.locate_eq_ok_iff_finds how n f).mpr ⟨present, finds⟩, finds⟩

end Offside
