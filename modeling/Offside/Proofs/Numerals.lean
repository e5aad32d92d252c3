import Mathlib.Data.List.Infix
import Offside.Text.Numeral

namespace Offside.Numeral

variable {t digits : Text} {v n : Nat} {c : Char} {flaw : Flaw}

/-- Decimal digits, at least one, that are worth `n`, of whatever size. -/
structure Digits (digits : Text) (n : Nat) : Prop where
  some : digits ≠ []
  all : ∀ c ∈ digits, c.isDigit
  value : Nat.ofDigitChars 10 digits 0 = n

/-- Digits, with a plus sign before them or without one. -/
def Denotes (t : Text) (n : Nat) : Prop := ∃ digits, (t = digits ∨ t = '+' :: digits) ∧ Digits digits n

theorem Digits.head_ne_plus (worth : Digits (c :: digits) n) : c ≠ '+' := by
  rintro rfl
  have sign := worth.all '+' List.mem_cons_self
  cases sign

theorem not_denotes_nil (n : Nat) : ¬ Denotes [] n := by
  rintro ⟨digits, nothing | sign, worth⟩
  · exact worth.some nothing.symm
  · cases sign

theorem denotes_plus_iff (digits : Text) (n : Nat) : Denotes ('+' :: digits) n ↔ Digits digits n := by
  constructor
  · rintro ⟨others, unsigned | signed, worth⟩
    · subst unsigned
      exact absurd rfl worth.head_ne_plus
    · obtain ⟨_, rfl⟩ := List.cons.inj signed
      exact worth
  · intro worth
    exact ⟨digits, .inr rfl, worth⟩

theorem denotes_cons_iff (other : c ≠ '+') (digits : Text) (n : Nat) :
    Denotes (c :: digits) n ↔ Digits (c :: digits) n := by
  constructor
  · rintro ⟨others, rfl | signed, worth⟩
    · exact worth
    · exact absurd (List.cons.inj signed).1 other
  · intro worth
    exact ⟨_, .inl rfl, worth⟩

theorem le_ofDigitChars (digits : Text) (v : Nat) : v ≤ Nat.ofDigitChars 10 digits v := by
  rw [Nat.ofDigitChars_eq_ofDigitChars_zero]
  have scaled : v ≤ 10 ^ digits.length * v := Nat.le_mul_of_pos_left v (Nat.pow_pos (by decide))
  exact Nat.le_add_right_of_le scaled

theorem readDigits_eq_ok_iff (fits : v < bound) (digits : Text) (n : Nat) :
    readDigits v digits = .ok n ↔ ((∀ c ∈ digits, c.isDigit) ∧ Nat.ofDigitChars 10 digits v = n) ∧ n < bound := by
  fun_induction readDigits v digits with
  | case1 v =>
    simp only [Except.ok.injEq, List.not_mem_nil, false_imp_iff, implies_true, true_and, Nat.ofDigitChars_nil]
    constructor
    · rintro rfl
      exact ⟨rfl, fits⟩
    · exact And.left
  | case2 v c rest none =>
    rw [digit?_eq_none_iff] at none
    simp [none]
  | case3 v c rest d digit next ih =>
    obtain ⟨isDigit, rfl⟩ := (digit?_eq_some_iff c d).mp digit
    rw [ih next, Nat.ofDigitChars_cons]
    simp [isDigit]
  | case4 v c rest d digit large =>
    obtain ⟨isDigit, rfl⟩ := (digit?_eq_some_iff c d).mp digit
    have least := le_ofDigitChars rest (10 * v + (c.toNat - '0'.toNat))
    rw [Nat.ofDigitChars_cons]
    simp only [reduceCtorEq, false_iff]
    rintro ⟨⟨_, rfl⟩, small⟩
    exact large (Nat.lt_of_le_of_lt least small)

theorem readDigits_ne_empty (v : Nat) (digits : Text) : readDigits v digits ≠ .error .empty := by
  fun_induction readDigits v digits with
  | case3 v c rest d digit next ih => exact ih
  | _ => simp

/-- Digits are too many where those read first are worth too much already. -/
theorem readDigits_eq_tooLarge_iff (fits : v < bound) (digits : Text) :
    readDigits v digits = .error .tooLarge ↔
      ∃ start, start <+: digits ∧ (∀ c ∈ start, c.isDigit) ∧ bound ≤ Nat.ofDigitChars 10 start v := by
  fun_induction readDigits v digits with
  | case1 v => simpa using fits
  | case2 v c rest none =>
    rw [digit?_eq_none_iff] at none
    simp [List.prefix_cons_iff, none, fits]
  | case3 v c rest d digit next ih =>
    obtain ⟨isDigit, rfl⟩ := (digit?_eq_some_iff c d).mp digit
    rw [ih next]
    simp [List.prefix_cons_iff, isDigit, Nat.not_le_of_lt fits, Nat.ofDigitChars_cons]
  | case4 v c rest d digit large =>
    obtain ⟨isDigit, rfl⟩ := (digit?_eq_some_iff c d).mp digit
    refine iff_of_true rfl ⟨[c], by simp, by simpa using isDigit, ?_⟩
    simpa [Nat.ofDigitChars_cons] using large

/-! ### Reading numerals -/

theorem zero_lt_bound : 0 < bound := by decide

theorem read_plus (some : digits ≠ []) : read ('+' :: digits) = readDigits 0 digits := by
  cases digits with
  | nil => exact absurd rfl some
  | cons c rest => rfl

theorem read_cons (other : c ≠ '+') (digits : Text) : read (c :: digits) = readDigits 0 (c :: digits) := by
  unfold read
  split <;> simp_all

theorem readDigits_zero_eq_ok_iff (some : digits ≠ []) (n : Nat) :
    readDigits 0 digits = .ok n ↔ Digits digits n ∧ n < bound := by
  rw [readDigits_eq_ok_iff zero_lt_bound]
  constructor
  · rintro ⟨⟨all, value⟩, fits⟩
    exact ⟨⟨some, all, value⟩, fits⟩
  · rintro ⟨worth, fits⟩
    exact ⟨⟨worth.all, worth.value⟩, fits⟩

/-- Exactly the numerals of numbers of 64 bits are read, as the numbers that they denote. -/
theorem read_eq_ok_iff (t : Text) (n : Nat) : read t = .ok n ↔ Denotes t n ∧ n < bound := by
  cases t with
  | nil => simp [read, not_denotes_nil]
  | cons c digits =>
    by_cases sign : c = '+'
    · subst sign
      rw [denotes_plus_iff]
      by_cases none : digits = []
      · subst none
        simp only [read, reduceCtorEq, false_iff]
        exact fun denotes => denotes.1.some rfl
      · rw [read_plus none, readDigits_zero_eq_ok_iff none]
    · rw [read_cons sign, denotes_cons_iff sign, readDigits_zero_eq_ok_iff (List.cons_ne_nil _ _)]

theorem readDigits_zero_eq_tooLarge_iff (digits : Text) :
    readDigits 0 digits = .error .tooLarge ↔ ∃ start n, start <+: digits ∧ Digits start n ∧ bound ≤ n := by
  rw [readDigits_eq_tooLarge_iff zero_lt_bound]
  constructor
  · rintro ⟨start, begins, all, large⟩
    refine ⟨start, _, begins, ⟨?_, all, rfl⟩, large⟩
    rintro rfl
    exact absurd large (Nat.not_le_of_lt zero_lt_bound)
  · rintro ⟨start, n, begins, worth, large⟩
    exact ⟨start, begins, worth.all, worth.value ▸ large⟩

theorem read_eq_tooLarge_iff (t : Text) :
    read t = .error .tooLarge ↔ ∃ start n, start <+: t ∧ Denotes start n ∧ bound ≤ n := by
  cases t with
  | nil => simp [read, not_denotes_nil]
  | cons c digits =>
    by_cases sign : c = '+'
    · subst sign
      have signed : (∃ start n, start <+: '+' :: digits ∧ Denotes start n ∧ bound ≤ n) ↔
          ∃ start n, start <+: digits ∧ Digits start n ∧ bound ≤ n := by
        simp [List.prefix_cons_iff, not_denotes_nil, denotes_plus_iff]
      rw [signed, ← readDigits_zero_eq_tooLarge_iff]
      cases digits with
      | nil => simp [read, readDigits]
      | cons d rest => rfl
    · have unsigned : (∃ start n, start <+: c :: digits ∧ Denotes start n ∧ bound ≤ n) ↔
          ∃ start n, start <+: c :: digits ∧ Digits start n ∧ bound ≤ n := by
        have none (n : Nat) : ¬ Digits [] n := fun worth => worth.some rfl
        simp [List.prefix_cons_iff, not_denotes_nil, none, denotes_cons_iff sign]
      rw [unsigned, ← readDigits_zero_eq_tooLarge_iff, read_cons sign]

theorem read_eq_empty_iff (t : Text) : read t = .error .empty ↔ t = [] := by
  fun_cases read t with
  | case1 => simp
  | case2 => simp
  | case3 digits => simp [readDigits_ne_empty]
  | case4 digits some => simpa [readDigits_ne_empty] using some

/-- What there is to find fault with in a text: it is empty, or it begins with a numeral that is too large, or it is no
    numeral for another reason. -/
def Flawed (t : Text) : Flaw → Prop
  | .empty => t = []
  | .tooLarge => ∃ start n, start <+: t ∧ Denotes start n ∧ bound ≤ n
  | .notDigit => t ≠ [] ∧ (∀ n, ¬ Denotes t n) ∧ ∀ start n, start <+: t → Denotes start n → n < bound

/-- Every text that is not read is refused for its first flaw from left to right. -/
theorem read_eq_error_iff (t : Text) (flaw : Flaw) : read t = .error flaw ↔ Flawed t flaw := by
  cases flaw with
  | empty => exact read_eq_empty_iff t
  | tooLarge => exact read_eq_tooLarge_iff t
  | notDigit =>
    -- What is left where a text is not read, not empty and not too large.
    have others : read t = .error .notDigit ↔
        read t ≠ .error .empty ∧ (∀ n, read t ≠ .ok n) ∧ read t ≠ .error .tooLarge := by
      rcases read t with (_ | _ | _) | n <;> simp
    simp only [others, ne_eq, read_eq_empty_iff, read_eq_ok_iff, read_eq_tooLarge_iff, Flawed]
    constructor
    · rintro ⟨some, unread, small⟩
      have fits (start : Text) (n : Nat) (begins : start <+: t) (denotes : Denotes start n) : n < bound :=
        Nat.lt_of_not_le fun large => small ⟨start, n, begins, denotes, large⟩
      exact ⟨some, fun n denotes => unread n ⟨denotes, fits t n (List.prefix_refl t) denotes⟩, fits⟩
    · rintro ⟨some, unread, fits⟩
      refine ⟨some, fun n denotes => unread n denotes.1, ?_⟩
      rintro ⟨start, n, begins, denotes, large⟩
      exact Nat.not_le_of_lt (fits start n begins denotes) large

theorem denotes_toDigits (n : Nat) : Denotes (Nat.toDigits 10 n) n :=
  ⟨_, .inl rfl, Nat.toDigits_ne_nil, fun _ member => Nat.isDigit_of_mem_toDigits (by decide) (by decide) member,
    Nat.ofDigitChars_ten_toDigits⟩

theorem isSpace_of_isDigit (digit : c.isDigit) : Text.isSpace c = false := by
  have between : 48 ≤ c.toNat ∧ c.toNat ≤ 57 := by
    simpa [Char.isDigit, UInt32.le_iff_toNat_le] using digit
  simp only [Text.isSpace, Text.spaceRuns, List.any_cons, List.any_nil, Bool.or_false, Bool.or_eq_false_iff,
    Bool.and_eq_false_imp, decide_eq_true_eq, decide_eq_false_iff_not]
  omega

theorem trim_toDigits (n : Nat) : Text.trim (Nat.toDigits 10 n) = Nat.toDigits 10 n :=
  Text.trim_eq_self fun _ member => isSpace_of_isDigit (Nat.isDigit_of_mem_toDigits (by decide) (by decide) member)

end Offside.Numeral
