import Offside.Fault
import Offside.Highlight

namespace Offside

/-- The part of a file to run: the block of a line, or the lines from the first to the last, both included. Lines
    are counted from zero here and from one where a user writes or reads them. -/
inductive Target where
  | caret (line : Nat)
  | lines (first last : Nat)
  deriving DecidableEq, Repr

namespace Target

/-- The two sides of the first colon; without a colon the text is both. -/
def sides (spec : Text) : Text × Text :=
  match spec.dropWhile (· ≠ ':') with
  | [] => (spec, spec)
  | _ :: rest => (spec.takeWhile (· ≠ ':'), rest)

/-- Reads `START:END` or a single number. Both numbers count from one. -/
def readSpan (spec : Text) : Except Fault Target := do
  let (start, stop) := sides spec
  let start ← (Numeral.read (Text.trim start)).mapError (.badStart spec)
  let stop ← (Numeral.read (Text.trim stop)).mapError (.badEnd spec)
  if start = 0 ∨ stop = 0 then throw (.lineZero spec)
  if stop < start then throw (.backwards spec)
  return .lines (start - 1) (stop - 1)

def last : Target → Nat
  | caret line => line
  | lines _ last => last

/-- From the start of the first line to the end of the last, which has to be in the buffer. -/
def highlight (b : Buffer) : Target → Except OutOfRange Highlight
  | caret line => return .caret ⟨line, 0⟩
  | lines first last => do
    let l ← b.line last
    return ⟨⟨first, 0⟩, ⟨last, l.length⟩⟩

def code (t : Target) (source : Text) (how : Anchoring) : Except Fault Text :=
  let b := Buffer.ofText source
  if b.lineCount ≤ t.last then throw (.pastEnd (t.last + 1) b.lineCount)
  else do
    let h ← (t.highlight b).mapError .outOfRange
    (h.code b how).mapError .notExtracted

end Target
end Offside
