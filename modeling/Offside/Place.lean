
namespace Offside

/-- A line and a column, both counted from zero. Nothing bounds them: a buffer decides what lies there. -/
structure Place where
  line : Nat
  column : Nat
  deriving DecidableEq, Repr

namespace Place

/-- Places are in reading order. -/
instance : LT Place := ⟨fun a b => a.line < b.line ∨ a.line = b.line ∧ a.column < b.column⟩

instance (a b : Place) : Decidable (a < b) :=
  inferInstanceAs (Decidable (a.line < b.line ∨ a.line = b.line ∧ a.column < b.column))

theorem lt_iff (a b : Place) : a < b ↔ a.line < b.line ∨ a.line = b.line ∧ a.column < b.column := Iff.rfl

theorem lt_or_eq_or_gt (a b : Place) : a < b ∨ a = b ∨ b < a := by
  cases a; cases b; simp only [lt_iff, mk.injEq]; omega

theorem not_lt_of_lt {a b : Place} (h : a < b) : ¬ b < a := by
  simp only [lt_iff] at *; omega

def order (a b : Place) : Ordering := if a < b then .lt else if a = b then .eq else .gt

end Place

/-- What lies from one place up to another; the column of the last place is not part of it. -/
structure Span where
  first : Place
  last : Place
  deriving DecidableEq, Repr

namespace Span

/-- The span between two places, whichever of them comes first. -/
def between (a b : Place) : Span := if b < a then ⟨b, a⟩ else ⟨a, b⟩

/-- A span that ends where it begins. -/
def isEmpty (s : Span) : Bool := s.first = s.last

theorem between_comm (a b : Place) : between a b = between b a := by
  rcases Place.lt_or_eq_or_gt a b with h | rfl | h
  · simp [between, h, Place.not_lt_of_lt h]
  · rfl
  · simp [between, h, Place.not_lt_of_lt h]

theorem isEmpty_between (a b : Place) : (between a b).isEmpty ↔ a = b := by
  unfold between isEmpty
  split <;> simp [eq_comm]

end Span
end Offside
