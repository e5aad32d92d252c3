import Offside.Text.Utf8

namespace Offside

open Utf8 (Bytes)

/-- A place that takes bytes for as long as there is room. A piece that does not fit is cut: what fits of it is
    kept, and the piece is refused. -/
structure Sink where
  /-- How many more bytes fit, where there is a limit. -/
  room : Option Nat
  /-- Whether the flushes to come succeed, one after another. -/
  flushes : Nat → Bool
  held : Bytes

namespace Sink

inductive Refusal where
  | full
  | flush
  deriving DecidableEq, Repr

def Refusal.message : Refusal → String
  | .full => "Failed to write code"
  | .flush => "Failed to flush output"

def Refusal.reason : Refusal → String
  | .full => "writer is full"
  | .flush => "flush refused"

def fresh (room : Option Nat) (flushes : Bool) : Sink := ⟨room, fun _ => flushes, []⟩

def fits (s : Sink) (count : Nat) : Bool := s.room.all fun room => count ≤ room

/-- The sink after bytes were offered to it: it takes as many of them as fit. -/
def take (s : Sink) (bytes : Bytes) : Sink :=
  match s.room with
  | none => { s with held := s.held ++ bytes }
  | some room => { s with room := some (room - bytes.length), held := s.held ++ bytes.take room }

theorem held_prefix_take (s : Sink) (bytes : Bytes) : s.held <+: (s.take bytes).held := by
  unfold take; split <;> exact List.prefix_append _ _

theorem held_take_of_fits (s : Sink) (bytes : Bytes) (h : s.fits bytes.length) :
    (s.take bytes).held = s.held ++ bytes := by
  unfold take fits at *
  cases limit : s.room with
  | none => rfl
  | some room =>
    simp only [limit, Option.all_some, decide_eq_true_eq] at h
    simp [List.take_of_length_le h]

/-- Offers the pieces one after another, up to the first that does not fit. -/
def write (s : Sink) : List Bytes → Bool × Sink
  | [] => (true, s)
  | piece :: more => if s.fits piece.length then (s.take piece).write more else (false, s.take piece)

def flushed (s : Sink) : Sink := { s with flushes := fun i => s.flushes (i + 1) }

/-- The code, a newline, a flush. -/
def deliver (s : Sink) (code : Text) : Except Refusal Unit × Sink :=
  match s.write [Utf8.encode code, Utf8.encode ['\n']] with
  | (false, s) => (.error .full, s)
  | (true, s) => (if s.flushes 0 then .ok () else .error .flush, s.flushed)

/-- Delivers codes in turn, each whatever became of those before it. -/
def deliverAll (s : Sink) : List Text → List (Except Refusal Unit) × Sink
  | [] => ([], s)
  | code :: more =>
    let (result, s) := s.deliver code
    let (results, s) := s.deliverAll more
    (result :: results, s)

end Sink
end Offside
