import Offside.Text.Basic

namespace Offside.Numeral

/-- What is wrong with a text that is no numeral of 64 bits. -/
inductive Flaw where
  | empty
  /-- A character is no digit, or there is a sign and nothing else. -/
  | notDigit
  | tooLarge
  deriving DecidableEq, Repr

def Flaw.message : Flaw → String
  | .empty => "cannot parse integer from empty string"
  | .notDigit => "invalid digit found in string"
  | .tooLarge => "number too large to fit in target type"

def bound : Nat := Nat.pow 2 64

def digit? (c : Char) : Option Nat :=
  if '0' ≤ c ∧ c ≤ '9' then some (c.toNat - '0'.toNat) else none

theorem digit?_eq_some_iff (c : Char) (d : Nat) : digit? c = some d ↔ c.isDigit = true ∧ c.toNat - '0'.toNat = d := by
  simp [digit?, Char.isDigit, Char.le_def, UInt32.le_iff_toNat_le]

theorem digit?_eq_none_iff (c : Char) : digit? c = none ↔ c.isDigit = false := by
  simp [digit?, Char.isDigit, Char.le_def, UInt32.le_iff_toNat_le]

/-- Reads digits after those that made up `value`. The first problem that is met is reported. -/
def readDigits (value : Nat) : Text → Except Flaw Nat
  | [] => .ok value
  | c :: rest =>
    match digit? c with
    | none => .error .notDigit
    | some d =>
      if 10 * value + d < bound then readDigits (10 * value + d) rest else .error .tooLarge

/-- Reads digits, with a plus sign before them perhaps. -/
def read : Text → Except Flaw Nat
  | [] => .error .empty
  | ['+'] => .error .notDigit
  | '+' :: digits => readDigits 0 digits
  | digits => readDigits 0 digits

end Offside.Numeral
