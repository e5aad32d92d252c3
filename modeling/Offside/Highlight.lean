import Offside.Block.Locate

namespace Offside

/-- What an editor has highlighted, from the place where it began to that of the caret, which may lie before it.
    If they are the same place nothing is highlighted. -/
structure Highlight where
  anchor : Place
  active : Place
  deriving DecidableEq, Repr

namespace Highlight

def caret (p : Place) : Highlight := ⟨p, p⟩

def span (h : Highlight) : Span := .between h.anchor h.active

def isEmpty (h : Highlight) : Bool := h.span.isEmpty

/-- What is highlighted, as it is, or else the block of the caret's line. -/
def code (h : Highlight) (b : Buffer) (how : Anchoring) : Except OutOfRange Text :=
  if h.isEmpty then b.blockText how h.active.line else b.textOf h.span

def notes (h : Highlight) (b : Buffer) (how : Anchoring) : List Note :=
  if h.isEmpty then .caret h.active.line :: b.notes how h.active.line else []

theorem isEmpty_iff (h : Highlight) : h.isEmpty ↔ h.anchor = h.active := Span.isEmpty_between ..

end Highlight
end Offside
