import Offside.Buffer

namespace Offside

/-- A run of whole lines that make up one statement, from `first` to `last`, both included. -/
@[ext] structure Block where
  first : Nat
  last : Nat
  first_le_last : first ≤ last := by omega
  deriving DecidableEq, Repr

namespace Block

def single (n : Nat) : Block := ⟨n, n, Nat.le_refl n⟩

def lineCount (b : Block) : Nat := b.last - b.first + 1

def isSingle (b : Block) : Bool := b.first = b.last

instance : Membership Nat Block := ⟨fun b n => b.first ≤ n ∧ n ≤ b.last⟩

instance (n : Nat) (b : Block) : Decidable (n ∈ b) :=
  inferInstanceAs (Decidable (b.first ≤ n ∧ n ≤ b.last))

theorem mem_iff (n : Nat) (b : Block) : n ∈ b ↔ b.first ≤ n ∧ n ≤ b.last := Iff.rfl

@[simp] theorem mem_single (n m : Nat) : n ∈ single m ↔ n = m := by
  simp only [mem_iff, single]; omega

/-- From the start of the first line to the end of the last, which has to be in the buffer. -/
def span (b : Block) (buffer : Buffer) : Except OutOfRange Span := do
  let l ← buffer.line b.last
  return .between ⟨b.first, 0⟩ ⟨b.last, l.length⟩

end Block
end Offside
