import Mathlib.Algebra.GroupWithZero.Nat
import Offside.Proofs.Numerals
import Offside.Target

namespace Offside.Target

open Numeral (Denotes Flawed bound)

variable {spec start stop : Text}

/-- What the first colon cuts a text into. Without a colon the text is both sides. -/
inductive Cut (spec : Text) : (start stop : Text) → Prop
  | whole : ':' ∉ spec → Cut spec spec spec
  | colon {start stop : Text} : ':' ∉ start → spec = start ++ ':' :: stop → Cut spec start stop

theorem exists_cut (spec : Text) : ∃ start stop, Cut spec start stop := by
  by_cases colon : ':' ∈ spec
  · obtain ⟨start, stop, parts, clean⟩ := List.eq_append_cons_of_mem colon
    exact ⟨start, stop, .colon clean parts⟩
  · exact ⟨spec, spec, .whole colon⟩

theorem ne_colon_of_mem {t : Text} (clean : ':' ∉ t) : ∀ c ∈ t, decide (c ≠ ':') = true := by
  intro c member
  simp only [ne_eq, decide_not, Bool.not_eq_true', decide_eq_false_iff_not]
  rintro rfl
  exact clean member

theorem Cut.sides_eq (cut : Cut spec start stop) : sides spec = (start, stop) := by
  cases cut with
  | whole clean =>
    have none : spec.dropWhile (· ≠ ':') = [] := by
      have all : (spec ++ []).dropWhile (· ≠ ':') = [] := List.dropWhile_append_of_pos (ne_colon_of_mem clean)
      rwa [List.append_nil] at all
    simp only [sides, none]
  | colon clean parts =>
    subst parts
    have rest : (start ++ ':' :: stop).dropWhile (· ≠ ':') = ':' :: stop := by
      rw [List.dropWhile_append_of_pos (ne_colon_of_mem clean)]
      simp
    have before : (start ++ ':' :: stop).takeWhile (· ≠ ':') = start := by
      rw [List.takeWhile_append_of_pos (ne_colon_of_mem clean)]
      simp
    simp only [sides, rest, before]

theorem Cut.unique {start' stop' : Text} (cut : Cut spec start stop) (cut' : Cut spec start' stop') :
    start = start' ∧ stop = stop' :=
  Prod.mk.inj (cut.sides_eq.symm.trans cut'.sides_eq)

theorem Cut.readSpan_of_badStart {flaw : Numeral.Flaw} (cut : Cut spec start stop)
    (bad : Numeral.read (Text.trim start) = .error flaw) : readSpan spec = .error (.badStart spec flaw) := by
  simp only [readSpan, cut.sides_eq, bad, Except.mapError, bind, Except.bind]

theorem Cut.readSpan_of_badEnd {m : Nat} {flaw : Numeral.Flaw} (cut : Cut spec start stop)
    (good : Numeral.read (Text.trim start) = .ok m) (bad : Numeral.read (Text.trim stop) = .error flaw) :
    readSpan spec = .error (.badEnd spec flaw) := by
  simp only [readSpan, cut.sides_eq, good, bad, Except.mapError, bind, Except.bind]

theorem Cut.readSpan_of_numbers {m n : Nat} (cut : Cut spec start stop) (first : Numeral.read (Text.trim start) = .ok m)
    (last : Numeral.read (Text.trim stop) = .ok n) :
    readSpan spec =
      if m = 0 ∨ n = 0 then .error (.lineZero spec)
      else if n < m then .error (.backwards spec)
      else .ok (.lines (m - 1) (n - 1)) := by
  simp only [readSpan, cut.sides_eq, first, last, Except.mapError, bind, Except.bind, pure, Except.pure, throw,
    throwThe, MonadExceptOf.throw]

/-- What reading a span comes to, where `first` and `last` are its sides without the blank space around them. The
    start is looked at before the end, and the numbers once both are read. -/
inductive Reading (spec first last : Text) : Except Fault Target → Prop
  | badStart {flaw : Numeral.Flaw} : Flawed first flaw → Reading spec first last (.error (.badStart spec flaw))
  | badEnd {m : Nat} {flaw : Numeral.Flaw} : Denotes first m ∧ m < bound → Flawed last flaw →
      Reading spec first last (.error (.badEnd spec flaw))
  | lineZero {m n : Nat} : Denotes first m ∧ m < bound → Denotes last n ∧ n < bound → m = 0 ∨ n = 0 →
      Reading spec first last (.error (.lineZero spec))
  | backwards {m n : Nat} : Denotes first m ∧ m < bound → Denotes last n ∧ n < bound → 1 ≤ n → n < m →
      Reading spec first last (.error (.backwards spec))
  | lines {m n : Nat} : Denotes first m ∧ m < bound → Denotes last n ∧ n < bound → 1 ≤ m → m ≤ n →
      Reading spec first last (.ok (.lines (m - 1) (n - 1)))

theorem Cut.reading (cut : Cut spec start stop) : Reading spec (Text.trim start) (Text.trim stop) (readSpan spec) := by
  cases first : Numeral.read (Text.trim start) with
  | error flaw =>
    rw [cut.readSpan_of_badStart first]
    exact .badStart ((Numeral.read_eq_error_iff _ flaw).mp first)
  | ok m =>
    have starts := (Numeral.read_eq_ok_iff _ m).mp first
    cases last : Numeral.read (Text.trim stop) with
    | error flaw =>
      rw [cut.readSpan_of_badEnd first last]
      exact .badEnd starts ((Numeral.read_eq_error_iff _ flaw).mp last)
    | ok n =>
      have stops := (Numeral.read_eq_ok_iff _ n).mp last
      rw [cut.readSpan_of_numbers first last]
      by_cases zero : m = 0 ∨ n = 0
      · rw [if_pos zero]
        exact .lineZero starts stops zero
      · by_cases backwards : n < m
        · rw [if_neg zero, if_pos backwards]
          exact .backwards starts stops (by omega) backwards
        · rw [if_neg zero, if_neg backwards]
          exact .lines starts stops (by omega) (by omega)

theorem Cut.readSpan_eq_iff (cut : Cut spec start stop) (result : Except Fault Target) :
    readSpan spec = result ↔ Reading spec (Text.trim start) (Text.trim stop) result := by
  constructor
  · rintro rfl
    exact cut.reading
  · intro reading
    cases reading with
    | badStart flawed => exact cut.readSpan_of_badStart ((Numeral.read_eq_error_iff _ _).mpr flawed)
    | badEnd starts flawed =>
      exact cut.readSpan_of_badEnd ((Numeral.read_eq_ok_iff _ _).mpr starts) ((Numeral.read_eq_error_iff _ _).mpr flawed)
    | lineZero starts stops zero =>
      rw [cut.readSpan_of_numbers ((Numeral.read_eq_ok_iff _ _).mpr starts) ((Numeral.read_eq_ok_iff _ _).mpr stops),
        if_pos zero]
    | backwards starts stops positive backwards =>
      rw [cut.readSpan_of_numbers ((Numeral.read_eq_ok_iff _ _).mpr starts) ((Numeral.read_eq_ok_iff _ _).mpr stops),
        if_neg (by omega), if_pos backwards]
    | lines starts stops positive ordered =>
      rw [cut.readSpan_of_numbers ((Numeral.read_eq_ok_iff _ _).mpr starts) ((Numeral.read_eq_ok_iff _ _).mpr stops),
        if_neg (by omega), if_neg (by omega)]

theorem reading_ok_iff (first last : Text) (target : Target) :
    Reading spec first last (.ok target) ↔ ∃ m n, Denotes first m ∧ Denotes last n ∧ 1 ≤ m ∧ m ≤ n ∧ n < bound ∧
      target = .lines (m - 1) (n - 1) := by
  constructor
  · intro reading
    cases reading with
    | @lines m n starts stops positive ordered => exact ⟨m, n, starts.1, stops.1, positive, ordered, stops.2, rfl⟩
  · rintro ⟨m, n, starts, stops, positive, ordered, fits, rfl⟩
    exact .lines ⟨starts, Nat.lt_of_le_of_lt ordered fits⟩ ⟨stops, fits⟩ positive ordered

theorem colon_not_mem_toDigits (n : Nat) : ':' ∉ Nat.toDigits 10 n := by
  intro member
  have digit : Char.isDigit ':' := Nat.isDigit_of_mem_toDigits (by decide) (by decide) member
  cases digit

theorem readSpan_written {a b : Nat} (positive : 1 ≤ a) (ordered : a ≤ b) (fits : b < bound) :
    readSpan s!"{a}:{b}".toList = .ok (.lines (a - 1) (b - 1)) := by
  have parts : s!"{a}:{b}".toList = Nat.toDigits 10 a ++ ':' :: Nat.toDigits 10 b := by
    show (a.repr ++ ":" ++ b.repr).toList = _
    simp
  have cut : Cut _ _ _ := .colon (colon_not_mem_toDigits a) parts
  rw [cut.readSpan_eq_iff, Numeral.trim_toDigits, Numeral.trim_toDigits, reading_ok_iff]
  exact ⟨a, b, Numeral.denotes_toDigits a, Numeral.denotes_toDigits b, positive, ordered, fits, rfl⟩

theorem readSpan_written_single {a : Nat} (positive : 1 ≤ a) (fits : a < bound) :
    readSpan s!"{a}".toList = .ok (.lines (a - 1) (a - 1)) := by
  have digits : s!"{a}".toList = Nat.toDigits 10 a := by simp
  have cut : Cut s!"{a}".toList _ _ := .whole (digits ▸ colon_not_mem_toDigits a)
  rw [cut.readSpan_eq_iff, digits, Numeral.trim_toDigits, reading_ok_iff]
  exact ⟨a, a, Numeral.denotes_toDigits a, Numeral.denotes_toDigits a, positive, Nat.le_refl a, fits, rfl⟩

/-- Exactly the spans of the grammar are read. Both sides of the first colon have to be numerals, blank space around
    them aside, for numbers from one to the largest of 64 bits, in order; the lines counted from zero are what
    is read. Of any other text the first reason to refuse it is told. What is written from two such numbers,
    or from one, is read as these. -/
theorem readSpan_grammar :
    (∀ spec : Text, ∃ start stop, Cut spec start stop ∧
      (∀ target, readSpan spec = .ok target ↔ ∃ m n, Denotes (Text.trim start) m ∧ Denotes (Text.trim stop) n ∧
        (1 ≤ m ∧ m < 2 ^ 64) ∧ (1 ≤ n ∧ n < 2 ^ 64) ∧ m ≤ n ∧ target = .lines (m - 1) (n - 1)) ∧
      ∀ result, readSpan spec = result ↔ Reading spec (Text.trim start) (Text.trim stop) result) ∧
    ∀ a b : Nat, 1 ≤ a → a ≤ b → b < 2 ^ 64 →
      readSpan s!"{a}:{b}".toList = .ok (.lines (a - 1) (b - 1)) ∧
        readSpan s!"{a}".toList = .ok (.lines (a - 1) (a - 1)) := by
  have size : 2 ^ 64 = bound := rfl
  rw [size]
  refine ⟨?_, ?_⟩
  · intro spec
    obtain ⟨start, stop, cut⟩ := exists_cut spec
    refine ⟨start, stop, cut, ?_, cut.readSpan_eq_iff⟩
    intro target
    rw [cut.readSpan_eq_iff, reading_ok_iff]
    constructor
    · rintro ⟨m, n, starts, stops, positive, ordered, fits, read⟩
      exact ⟨m, n, starts, stops, ⟨positive, by omega⟩, ⟨by omega, fits⟩, ordered, read⟩
    · rintro ⟨m, n, starts, stops, ⟨positive, _⟩, ⟨_, fits⟩, ordered, read⟩
      exact ⟨m, n, starts, stops, positive, ordered, fits, read⟩
  · intro a b positive ordered fits
    exact ⟨readSpan_written positive ordered fits, readSpan_written_single positive (Nat.lt_of_le_of_lt ordered fits)⟩

/-- The largest line number is read with a sign, leading zeros and blank space of several kinds around it. One more is
    too large, and that is told before the start is found to be line zero. -/
theorem readSpan_grammar_edges :
    1 ≤ 3 ∧ 3 ≤ 40 ∧ 40 < 2 ^ 64 ∧ readSpan "3:40".toList = .ok (.lines 2 39) ∧
      readSpan "\u00a0+0003 :\t18446744073709551615".toList = .ok (.lines 2 18446744073709551614) ∧
      readSpan "0:18446744073709551616".toList = .error (.badEnd "0:18446744073709551616".toList .tooLarge) := by
  obtain ⟨grammar, written⟩ := readSpan_grammar
  have small := (written 3 40 (by simp) (by simp) (by simp)).1
  have digits : s!"{3}:{40}".toList = "3:40".toList := rfl
  rw [digits] at small
  refine ⟨by simp, by simp, by simp, small, ?_, ?_⟩
  · obtain ⟨start, stop, cut, reads, _⟩ := grammar "\u00a0+0003 :\t18446744073709551615".toList
    have parts : Cut "\u00a0+0003 :\t18446744073709551615".toList "\u00a0+0003 ".toList "\t18446744073709551615".toList :=
      .colon (by simp) (by simp)
    obtain ⟨rfl, rfl⟩ := cut.unique parts
    have three : Denotes (Text.trim "\u00a0+0003 ".toList) 3 := ⟨"0003".toList, .inr rfl, by simp, by simp, rfl⟩
    have largest : Denotes (Text.trim "\t18446744073709551615".toList) 18446744073709551615 :=
      ⟨"18446744073709551615".toList, .inl rfl, by simp, by simp, rfl⟩
    exact (reads _).mpr ⟨3, _, three, largest, by simp, by simp, by simp, rfl⟩
  · obtain ⟨start, stop, cut, _, reading⟩ := grammar "0:18446744073709551616".toList
    have parts : Cut "0:18446744073709551616".toList "0".toList "18446744073709551616".toList := .colon (by simp) (by simp)
    obtain ⟨rfl, rfl⟩ := cut.unique parts
    have zero : Denotes (Text.trim "0".toList) 0 := ⟨"0".toList, .inl rfl, by simp, by simp, rfl⟩
    have above : Denotes (Text.trim "18446744073709551616".toList) 18446744073709551616 :=
      ⟨"18446744073709551616".toList, .inl rfl, by simp, by simp, rfl⟩
    exact (reading _).mpr (.badEnd ⟨zero, Numeral.zero_lt_bound⟩ ⟨_, _, List.prefix_refl _, above, by decide⟩)

end Offside.Target
