import Offside.Proofs.Environment
import Offside.Proofs.Selections
import Offside.Proofs.Spans

/-!
Lines are counted from one in arguments and messages and from zero between the two. What the arguments pick is the
value of an option (`parse_supplied`), and its numbers count from one and have 64 bits (`Asks`). So the step down
to a target never goes below zero, and the step up to a message never leaves the 64 bits.
-/

namespace Offside.CommandLine

open Utf8 (Bytes)
open Numeral (Denotes bound)
open Target (Cut)

variable {seen seen' : Seen} {arguments : List Bytes} {pick : Pick} {o : Options}

theorem textValue_eq_ok_iff (bytes : Bytes) (t : Text) : textValue bytes = .ok t ↔ bytes = Utf8.encode t := by
  rw [← Utf8.decode?_eq_some_iff, textValue]
  cases Utf8.decode? bytes <;> simp [pure, Except.pure, throw, throwThe, MonadExceptOf.throw]

theorem numberValue_eq_ok_iff (least : Nat) (bytes : Bytes) (n : Nat) :
    numberValue least bytes = .ok n ↔ ∃ t, bytes = Utf8.encode t ∧ Denotes t n ∧ least ≤ n ∧ n < bound := by
  constructor
  · intro accepted
    obtain ⟨t, text, accepted⟩ := bind_eq_ok accepted
    refine ⟨t, (textValue_eq_ok_iff bytes t).mp text, ?_⟩
    cases number : Numeral.read t with
    | error flaw =>
      rw [number] at accepted
      cases accepted
    | ok k =>
      simp only [number] at accepted
      split at accepted
      · next enough =>
        obtain rfl := Except.ok.inj accepted
        obtain ⟨denotes, fits⟩ := (Numeral.read_eq_ok_iff t k).mp number
        exact ⟨denotes, enough, fits⟩
      · cases accepted
  · rintro ⟨t, coded, denotes, enough, fits⟩
    have text := (textValue_eq_ok_iff bytes t).mpr coded
    have number := (Numeral.read_eq_ok_iff t n).mpr ⟨denotes, fits⟩
    simp [numberValue, text, number, enough, bind, Except.bind, pure, Except.pure]

/-- An option is given this value among the arguments: after its equals sign or in the next argument. -/
inductive Supplied (v : Valued) (value : Bytes) : List Bytes → Prop
  | equals {argument name : Bytes} {rest : List Bytes} : Token.ofBytes argument = .named name (some value) →
      meaning? name = some (.valued v) → Supplied v value (argument :: rest)
  | next {argument next name : Bytes} {rest : List Bytes} : Token.ofBytes argument = .named name none →
      meaning? name = some (.valued v) → Token.ofBytes next = .word value → Supplied v value (argument :: next :: rest)
  | later {argument : Bytes} {rest : List Bytes} : Supplied v value rest → Supplied v value (argument :: rest)

/-- What is picked is read from this value of an option. -/
def Pick.ReadFrom (v : Valued) (value : Bytes) : Pick → Prop
  | .line n => v = .line ∧ numberValue 1 value = .ok n
  | .select spec => v = .select ∧ textValue value = .ok spec

def Seen.Holds (seen : Seen) : Pick → Prop
  | .line n => seen.line = some n
  | .select spec => seen.select = some spec

theorem Seen.holds_setFile {bytes : Bytes} (set : seen.setFile bytes = .ok seen') (pick : Pick) :
    seen'.Holds pick ↔ seen.Holds pick := by
  obtain ⟨file, _, made⟩ := bind_eq_ok set
  obtain rfl := Except.ok.inj made
  cases pick <;> rfl

theorem Seen.holds_setSwitch {s : Switch} (set : seen.setSwitch s = .ok seen') (pick : Pick) :
    seen'.Holds pick ↔ seen.Holds pick := by
  cases s <;>
    · simp only [setSwitch] at set
      split at set
      · cases set
      · obtain rfl := Except.ok.inj set
        cases pick <;> rfl

theorem Seen.holds_setFiles {files : List Bytes} (set : files.foldlM Seen.setFile seen = .ok seen') (pick : Pick) :
    seen'.Holds pick ↔ seen.Holds pick := by
  induction files generalizing seen with
  | nil =>
    obtain rfl := Except.ok.inj set
    rfl
  | cons bytes files ih =>
    rw [List.foldlM_cons] at set
    obtain ⟨next, first, later⟩ := bind_eq_ok set
    rw [ih later, holds_setFile first]

theorem Seen.of_holds_setValue {bytes : Bytes} {v : Valued} (set : seen.setValue bytes v = .ok seen')
    (holds : seen'.Holds pick) : seen.Holds pick ∨ pick.ReadFrom v bytes := by
  cases v <;>
    · obtain ⟨value, read, made⟩ := bind_eq_ok set
      obtain rfl := Except.ok.inj made
      obtain ⟨a, accepted, rfl⟩ := once_eq_ok read
      cases pick <;> simp_all [Holds, Pick.ReadFrom]

theorem Reads.holds (reads : Reads seen arguments seen') (picked : seen'.Holds pick) :
    seen.Holds pick ∨ ∃ v value, Supplied v value arguments ∧ pick.ReadFrom v value := by
  induction reads with
  | done => exact .inl picked
  | word token set _ ih =>
    rcases ih picked with before | ⟨v, value, supplied, origin⟩
    · exact .inl ((Seen.holds_setFile set pick).mp before)
    · exact .inr ⟨v, value, .later supplied, origin⟩
  | wordsOnly token set => exact .inl ((Seen.holds_setFiles set pick).mp picked)
  | switch token meaning set _ ih =>
    rcases ih picked with before | ⟨v, value, supplied, origin⟩
    · exact .inl ((Seen.holds_setSwitch set pick).mp before)
    · exact .inr ⟨v, value, .later supplied, origin⟩
  | equals token meaning set _ ih =>
    rcases ih picked with before | ⟨v, value, supplied, origin⟩
    · exact (Seen.of_holds_setValue set before).imp_right fun now => ⟨_, _, .equals token meaning, now⟩
    · exact .inr ⟨v, value, .later supplied, origin⟩
  | apart token meaning word set _ ih =>
    rcases ih picked with before | ⟨v, value, supplied, origin⟩
    · exact (Seen.of_holds_setValue set before).imp_right fun now => ⟨_, _, .next token meaning word, now⟩
    · exact .inr ⟨v, value, .later (.later supplied), origin⟩

theorem Seen.holds_of_finish (done : seen.finish = .ok o) : seen.Holds o.pick := by
  unfold finish at done
  split at done
  · next line _ =>
    obtain rfl := Except.ok.inj done
    exact line
  · next select =>
    obtain rfl := Except.ok.inj done
    exact select
  · cases done

/-- Arguments that are accepted pick what the value of an option says. -/
theorem parse_supplied (accepted : parse arguments = .ok o) :
    ∃ v value, Supplied v value arguments ∧ o.pick.ReadFrom v value := by
  obtain ⟨seen, done, finished⟩ := bind_eq_ok accepted
  rcases (reads_of_read done).holds (Seen.holds_of_finish finished) with before | supplied
  · cases pick : o.pick <;> simp [pick, Seen.Holds] at before
  · exact supplied

/-- The value `t` of an option picks lines by these numbers, the first and the last, which count from one. -/
inductive Asks : (v : Valued) → (t : Text) → Pick → (first last : Nat) → Prop
  | line {t : Text} {n : Nat} : Denotes t n → 1 ≤ n → n < 2 ^ 64 → Asks .line t (.line n) n n
  | select {spec start stop : Text} {m n : Nat} : Cut spec start stop → Denotes (Text.trim start) m →
      Denotes (Text.trim stop) n → 1 ≤ m → m ≤ n → n < 2 ^ 64 → Asks .select spec (.select spec) m n

variable {v : Valued} {t : Text} {m n : Nat} {target : Target}

theorem Asks.bounds (asks : Asks v t pick m n) : 1 ≤ m ∧ m ≤ n ∧ n < 2 ^ 64 := by
  cases asks with
  | line denotes positive fits => exact ⟨positive, Nat.le_refl _, fits⟩
  | select cut starts stops positive ordered fits => exact ⟨positive, ordered, fits⟩

theorem exists_asks (accepted : parse arguments = .ok o) (made : o.target = .ok target) :
    ∃ v t m n, Supplied v (Utf8.encode t) arguments ∧ Asks v t o.pick m n := by
  obtain ⟨v, value, supplied, reads⟩ := parse_supplied accepted
  cases pick : o.pick with
  | line n =>
    rw [pick] at reads
    obtain ⟨rfl, read⟩ := reads
    obtain ⟨t, rfl, denotes, positive, fits⟩ := (numberValue_eq_ok_iff 1 value n).mp read
    exact ⟨.line, t, n, n, supplied, .line denotes positive fits⟩
  | select spec =>
    rw [pick] at reads
    obtain ⟨rfl, read⟩ := reads
    obtain rfl := (textValue_eq_ok_iff value spec).mp read
    obtain ⟨start, stop, cut⟩ := Target.exists_cut spec
    have span : Target.readSpan spec = .ok target := by simpa only [Options.target, pick] using made
    rw [cut.readSpan_eq_iff, Target.reading_ok_iff] at span
    obtain ⟨m, n, starts, stops, positive, ordered, fits, _⟩ := span
    exact ⟨.select, spec, m, n, supplied, .select cut starts stops positive ordered fits⟩

theorem Asks.target_eq (asks : Asks v t o.pick m n) :
    o.target = .ok (.caret (n - 1)) ∨ o.target = .ok (.lines (m - 1) (n - 1)) := by
  unfold Options.target
  generalize o.pick = pick at asks
  cases asks with
  | line denotes positive fits => exact .inl rfl
  | select cut starts stops positive ordered fits =>
    refine .inr ?_
    rw [cut.readSpan_eq_iff, Target.reading_ok_iff]
    exact ⟨m, n, starts, stops, positive, ordered, fits, rfl⟩

theorem toNat_ofNat_of_lt {k : Nat} (fits : k < 2 ^ 64) : (UInt64.ofNat k).toNat = k := by
  rw [UInt64.toNat_ofNat']
  exact Nat.mod_eq_of_lt fits

/-- One less is computed exactly with 64 bits unless it is less than nothing. -/
theorem toNat_sub_one {k : Nat} (positive : 1 ≤ k) (fits : k < 2 ^ 64) : (UInt64.ofNat k - 1).toNat = k - 1 := by
  have le : 1 ≤ UInt64.ofNat k := by
    rw [UInt64.le_iff_toNat_le, toNat_ofNat_of_lt fits]
    exact positive
  rw [UInt64.toNat_sub_of_le _ _ le, toNat_ofNat_of_lt fits]
  rfl

theorem toNat_add_one {k : Nat} (fits : k + 1 < 2 ^ 64) : (UInt64.ofNat k + 1).toNat = k + 1 := by
  rw [UInt64.toNat_add, toNat_ofNat_of_lt (Nat.lt_of_succ_lt fits)]
  exact Nat.mod_eq_of_lt fits

/-- Line numbers are the same from the arguments to the messages. What accepted arguments ask for is lines by numbers of
    64 bits that count from one. Whatever these numbers are, those of the target are one less and the number of its
    last line is one more again, also if all this is computed with 64 bits. Code is extracted exactly if the last
    line is there; otherwise its number is reported to be past the end, and there is no other fault. -/
theorem line_numbers_exact :
    (∀ arguments o target, parse arguments = .ok o → o.target = .ok target →
      ∃ v t m n, Supplied v (Utf8.encode t) arguments ∧ Asks v t o.pick m n) ∧
    ∀ (o : Options) (v : Valued) (t : Text) (m n : Nat), Asks v t o.pick m n →
      ∃ target, o.target = .ok target ∧
        (target = .caret (UInt64.ofNat n - 1).toNat ∨
          target = .lines (UInt64.ofNat m - 1).toNat (UInt64.ofNat n - 1).toNat) ∧
        (UInt64.ofNat m - 1).toNat + 1 = m ∧ (UInt64.ofNat n - 1).toNat + 1 = n ∧
        (UInt64.ofNat target.last + 1).toNat = n ∧
        ∀ source how,
          let count := (Buffer.ofText source).lineCount
          ((∃ code, target.code source how = .ok code) ↔ n ≤ count) ∧
          (count < n → target.code source how = .error (.pastEnd n count) ∧
            (Fault.pastEnd n count).message = s!"Line {n} is past the end of the file ({count} lines)") ∧
          ∀ why, target.code source how ≠ .error (.outOfRange why) ∧
            target.code source how ≠ .error (.notExtracted why) := by
  refine ⟨fun arguments o target => exists_asks, ?_⟩
  intro o v t m n asks
  obtain ⟨positive, ordered, fits⟩ := asks.bounds
  have first := toNat_sub_one positive (Nat.lt_of_le_of_lt ordered fits)
  have last := toNat_sub_one (Nat.le_trans positive ordered) fits
  have number : n - 1 + 1 = n := Nat.sub_add_cancel (Nat.le_trans positive ordered)
  have again : (UInt64.ofNat (n - 1) + 1).toNat = n := by rw [toNat_add_one (by omega), number]
  rw [first, last]
  rcases asks.target_eq with made | made
  · refine ⟨_, made, .inl rfl, Nat.sub_add_cancel positive, number, again, ?_⟩
    intro source how
    have single : ∀ i j, Target.caret (n - 1) = .lines i j → i ≤ j := by rintro i j ⟨⟩
    obtain ⟨extracts, fails, found⟩ := Target.code_of_ordered (.caret (n - 1)) number single source how
    exact ⟨extracts, fun past => ⟨fails past, rfl⟩, found⟩
  · refine ⟨_, made, .inr rfl, Nat.sub_add_cancel positive, number, again, ?_⟩
    intro source how
    have inOrder : ∀ i j, Target.lines (m - 1) (n - 1) = .lines i j → i ≤ j := by
      rintro i j ⟨rfl, rfl⟩
      exact Nat.sub_le_sub_right ordered 1
    obtain ⟨extracts, fails, found⟩ := Target.code_of_ordered (.lines (m - 1) (n - 1)) number inOrder source how
    exact ⟨extracts, fun past => ⟨fails past, rfl⟩, found⟩

/-- The largest line number, given with a sign and a space, is the one that is reported. -/
theorem line_numbers_exact_largest :
    let spec : Text := "+2: 18446744073709551615".toList
    let arguments := [bytesOf "script.py", bytesOf "--select", Utf8.encode spec]
    let o : Options := ⟨bytesOf "script.py", .select spec, false, none, none, false, false⟩
    parse arguments = .ok o ∧ Asks .select spec o.pick 2 18446744073709551615 ∧
      (∃ v t m n, Supplied v (Utf8.encode t) arguments ∧ Asks v t o.pick m n) ∧
      ∃ target, o.target = .ok target ∧ (UInt64.ofNat target.last + 1).toNat = 18446744073709551615 ∧
        target.code "a\nb".toList .innermost = .error (.pastEnd 18446744073709551615 2) := by
  intro spec arguments o
  have accepted : parse arguments = .ok o := by decide +kernel
  have asks : Asks .select spec o.pick 2 18446744073709551615 := by
    have cut : Cut spec "+2".toList " 18446744073709551615".toList := .colon (by simp) rfl
    have two : Denotes (Text.trim "+2".toList) 2 := ⟨['2'], .inr rfl, by simp, by simp, rfl⟩
    have largest : Denotes (Text.trim " 18446744073709551615".toList) 18446744073709551615 :=
      ⟨"18446744073709551615".toList, .inl rfl, by simp, by simp, rfl⟩
    exact .select cut two largest (by simp) (by simp) (by simp)
  obtain ⟨given, exact⟩ := line_numbers_exact
  obtain ⟨target, made, _, _, _, up, extraction⟩ := exact o _ _ _ _ asks
  obtain ⟨_, fails, _⟩ := extraction "a\nb".toList .innermost
  exact ⟨accepted, asks, given _ _ _ accepted made, target, made, up, (fails (by decide)).1⟩

end Offside.CommandLine
