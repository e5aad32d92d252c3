import Offside.Block.Locate

/-!
To lie under a line is transitive, so a block begun inside another ends inside it (`headedBy_subset`), and of
two blocks begun anywhere one holds the other or they share no line.
-/

namespace Offside.Block

instance : HasSubset Block := ⟨fun a b => ∀ n ∈ a, n ∈ b⟩

def Disjoint (a b : Block) : Prop := ∀ n ∈ a, n ∉ b

theorem first_mem (b : Block) : b.first ∈ b := ⟨Nat.le_refl _, b.first_le_last⟩

theorem last_mem (b : Block) : b.last ∈ b := ⟨b.first_le_last, Nat.le_refl _⟩

theorem subset_refl (b : Block) : b ⊆ b := fun _ member => member

theorem subset_iff (a b : Block) : a ⊆ b ↔ b.first ≤ a.first ∧ a.last ≤ b.last := by
  constructor
  · intro sub
    exact ⟨(sub a.first a.first_mem).1, (sub a.last a.last_mem).2⟩
  · rintro ⟨left, right⟩ n ⟨least, most⟩
    exact ⟨Nat.le_trans left least, Nat.le_trans most right⟩

theorem eq_of_mem_iff {a b : Block} (same : ∀ n, n ∈ a ↔ n ∈ b) : a = b := by
  obtain ⟨least, most⟩ := (subset_iff a b).mp fun n => (same n).mp
  obtain ⟨least', most'⟩ := (subset_iff b a).mp fun n => (same n).mpr
  exact Block.ext (Nat.le_antisymm least' least) (Nat.le_antisymm most most')

theorem disjoint_iff (a b : Block) : a.Disjoint b ↔ a.last < b.first ∨ b.last < a.first := by
  have ordered := a.first_le_last
  have ordered' := b.first_le_last
  constructor
  · intro apart
    by_cases before : a.last < b.first
    · exact .inl before
    · -- The later of the two first lines would lie in both blocks.
      have shared := apart (max a.first b.first)
      simp only [mem_iff] at shared
      omega
  · rintro (before | after) n ⟨least, most⟩ ⟨least', most'⟩
    · omega
    · omega

instance (a b : Block) : Decidable (a ⊆ b) := decidable_of_iff _ (subset_iff a b).symm

instance (a b : Block) : Decidable (a.Disjoint b) := decidable_of_iff _ (disjoint_iff a b).symm

theorem Disjoint.symm {a b : Block} (apart : a.Disjoint b) : b.Disjoint a :=
  fun n member other => apart n other member

/-- One holds the other, or they share no line. -/
def Laminar (a b : Block) : Prop := a.Disjoint b ∨ a ⊆ b ∨ b ⊆ a

theorem Laminar.symm {a b : Block} (laminar : Laminar a b) : Laminar b a := by
  rcases laminar with apart | inner | outer
  · exact .inl apart.symm
  · exact .inr (.inr inner)
  · exact .inr (.inl outer)

theorem laminar_single (n : Nat) (b : Block) : Laminar (single n) b := by
  by_cases member : n ∈ b
  · refine .inr (.inl ?_)
    intro i same
    rw [mem_single] at same
    exact same ▸ member
  · refine .inl ?_
    intro i same
    rw [mem_single] at same
    exact same ▸ member

/-- How deep line `i` is indented; a line that is not there counts as not indented. -/
def depthAt (lines : List Text) (i : Nat) : Nat := (lines[i]?.map Line.indent).getD 0

/-- Line `i` may belong to the body of a block begun at line `s`: it is not blank and deeper. -/
def Under (lines : List Text) (s i : Nat) : Prop := lines[i]?.any (Line.isBody (depthAt lines s))

theorem depthAt_eq {lines : List Text} {i : Nat} {l : Text} (here : lines[i]? = some l) :
    depthAt lines i = Line.indent l := by
  simp [depthAt, here]

theorem under_iff (lines : List Text) (s i : Nat) :
    Under lines s i ↔ ∃ l, lines[i]? = some l ∧ Text.isBlank l = false ∧ depthAt lines s < Line.indent l := by
  simp [Under, Option.any_eq_true, Line.isBody_iff]

theorem Under.depth_lt {lines : List Text} {s i : Nat} (under : Under lines s i) :
    depthAt lines s < depthAt lines i := by
  obtain ⟨l, here, _, deeper⟩ := (under_iff lines s i).mp under
  rw [depthAt_eq here]
  exact deeper

theorem Under.trans {lines : List Text} {s t i : Nat} (first : Under lines s t) (second : Under lines t i) :
    Under lines s i := by
  obtain ⟨l, here, text, deeper⟩ := (under_iff lines t i).mp second
  exact (under_iff lines s i).mpr ⟨l, here, text, Nat.lt_trans first.depth_lt deeper⟩

theorem not_under_after {lines : List Text} {s : Nat} (present : s < lines.length) :
    ¬ Under lines s ((headedBy lines s).last + 1) := by
  intro after
  have begins : lines[s]? = some lines[s] := List.getElem?_eq_getElem present
  obtain ⟨l, here, text, deeper⟩ := (under_iff lines s _).mp after
  have stops := not_isBody_after_headedBy begins here
  rw [← depthAt_eq begins] at stops
  have body := (Line.isBody_iff _ _).mpr ⟨text, deeper⟩
  rw [stops] at body
  cases body

/-- A block goes on for exactly as long as lines lie under the one it begins at. -/
theorem mem_headedBy_iff {lines : List Text} {s : Nat} (present : s < lines.length) (n : Nat) :
    n ∈ headedBy lines s ↔ s ≤ n ∧ ∀ i, s < i → i ≤ n → Under lines s i := by
  have begins : lines[s]? = some lines[s] := List.getElem?_eq_getElem present
  constructor
  · intro inside
    refine ⟨inside.1, ?_⟩
    intro i below upTo
    have covered : i ∈ headedBy lines s := ⟨Nat.le_of_lt below, Nat.le_trans upTo inside.2⟩
    have there : i < lines.length := Nat.lt_of_le_of_lt covered.2 (last_headedBy_lt present)
    have here : lines[i]? = some lines[i] := List.getElem?_eq_getElem there
    have body := isBody_of_mem_headedBy begins here below covered
    rw [Under, depthAt_eq begins, here]
    exact body
  · rintro ⟨least, under⟩
    refine ⟨least, Nat.le_of_not_lt ?_⟩
    intro beyond
    -- The line after the block would be one of those that lie under its first line.
    exact not_under_after present
      (under ((headedBy lines s).last + 1) (Nat.lt_succ_of_le (headedBy lines s).first_le_last) beyond)

theorem last_headedBy_eq {lines : List Text} {s e : Nat} (present : s < lines.length) (le : s ≤ e)
    (under : ∀ i, s < i → i ≤ e → Under lines s i) (stops : ¬ Under lines s (e + 1)) :
    (headedBy lines s).last = e := by
  have reached : e ∈ headedBy lines s := (mem_headedBy_iff present e).mpr ⟨le, under⟩
  refine Nat.le_antisymm (Nat.le_of_not_lt ?_) reached.2
  intro past
  have further : e + 1 ∈ headedBy lines s := ⟨Nat.le_succ_of_le le, past⟩
  exact stops (((mem_headedBy_iff present _).mp further).2 (e + 1) (Nat.lt_succ_of_le le) (Nat.le_refl _))

theorem self_mem_headedBy (lines : List Text) (s : Nat) : s ∈ headedBy lines s := first_mem _

theorem under_of_mem_headedBy {lines : List Text} {s i : Nat} (present : s < lines.length)
    (inside : i ∈ headedBy lines s) (other : i ≠ s) : Under lines s i := by
  obtain ⟨least, under⟩ := (mem_headedBy_iff present i).mp inside
  exact under i (Nat.lt_of_le_of_ne least other.symm) (Nat.le_refl i)

theorem headedBy_subset {lines : List Text} {s t : Nat} (present : s < lines.length)
    (inside : t ∈ headedBy lines s) : headedBy lines t ⊆ headedBy lines s := by
  have there : t < lines.length := Nat.lt_of_le_of_lt inside.2 (last_headedBy_lt present)
  obtain ⟨least, above⟩ := (mem_headedBy_iff present t).mp inside
  intro n member
  obtain ⟨least', under⟩ := (mem_headedBy_iff there n).mp member
  refine (mem_headedBy_iff present n).mpr ⟨Nat.le_trans least least', ?_⟩
  intro i below upTo
  by_cases early : i ≤ t
  · exact above i below early
  · have later : Under lines t i := under i (Nat.lt_of_not_le early) upTo
    by_cases same : t = s
    · exact same ▸ later
    · exact (under_of_mem_headedBy present inside same).trans later

theorem laminar_headedBy {lines : List Text} {s t : Nat} (hs : s < lines.length) (ht : t < lines.length) :
    Laminar (headedBy lines s) (headedBy lines t) := by
  have ordered {s t : Nat} (hs : s < lines.length) (le : s ≤ t) :
      Laminar (headedBy lines s) (headedBy lines t) := by
    by_cases inside : t ≤ (headedBy lines s).last
    · exact .inr (.inr (headedBy_subset hs ⟨le, inside⟩))
    · exact .inl ((disjoint_iff _ _).mpr (.inl (Nat.lt_of_not_le inside)))
  rcases Nat.le_total s t with le | ge
  · exact ordered hs le
  · exact (ordered ht ge).symm

end Offside.Block
