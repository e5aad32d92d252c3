
namespace Offside

/-- A text, or one line of it. Its columns count characters. -/
abbrev Text := List Char

namespace Text

/-- What comes after a word that the text begins with. -/
def after? : (word t : Text) → Option Text
  | [], t => some t
  | _ :: _, [] => none
  | c :: word, d :: t => if c = d then after? word t else none

theorem after?_eq_some_iff (word t rest : Text) : after? word t = some rest ↔ t = word ++ rest := by
  fun_induction after? word t <;> simp_all [eq_comm]

/-- The first and the last code point of each run of the Unicode property White_Space. -/
def spaceRuns : List (Nat × Nat) :=
  [(0x09, 0x0D), (0x20, 0x20), (0x85, 0x85), (0xA0, 0xA0), (0x1680, 0x1680), (0x2000, 0x200A),
   (0x2028, 0x2029), (0x202F, 0x202F), (0x205F, 0x205F), (0x3000, 0x3000)]

def isSpace (c : Char) : Bool :=
  spaceRuns.any fun run => run.1 ≤ c.toNat && c.toNat ≤ run.2

def isBlank (t : Text) : Bool := t.all isSpace

def trimStart (t : Text) : Text := t.dropWhile isSpace

def trimEnd (t : Text) : Text := (t.reverse.dropWhile isSpace).reverse

def trim (t : Text) : Text := trimEnd (trimStart t)

theorem trimStart_eq_nil_iff (t : Text) : trimStart t = [] ↔ isBlank t := by
  unfold trimStart isBlank
  induction t with
  | nil => exact iff_of_true rfl rfl
  | cons c t ih =>
    rw [List.dropWhile_cons, List.all_cons]
    cases isSpace c with
    | true => exact ih
    | false => exact iff_of_false (List.cons_ne_nil c t) Bool.false_ne_true

theorem trimEnd_eq_nil_iff (t : Text) : trimEnd t = [] ↔ isBlank t := by
  rw [trimEnd, List.reverse_eq_nil_iff, isBlank, ← List.all_reverse]
  exact trimStart_eq_nil_iff t.reverse

theorem trim_eq_nil_iff (t : Text) : trim t = [] ↔ isBlank t := by
  rw [trim, trimEnd_eq_nil_iff, ← trimStart_eq_nil_iff, ← trimStart_eq_nil_iff]
  cases h : trimStart t with
  | nil => simp [trimStart]
  | cons c r =>
    have head : isSpace c = false := by
      have := List.head?_dropWhile_not isSpace t
      rw [show t.dropWhile isSpace = c :: r from h] at this
      simpa using this
    simp [trimStart, head]

theorem isBlank_append (a b : Text) : isBlank (a ++ b) = (isBlank a && isBlank b) := by
  simp [isBlank]

theorem trimStart_append_of_isBlank {a : Text} (blank : isBlank a) (t : Text) :
    trimStart (a ++ t) = trimStart t := by
  rw [isBlank, List.all_eq_true] at blank
  exact List.dropWhile_append_of_pos blank

theorem trimStart_append {a : Text} (text : isBlank a = false) (t : Text) :
    trimStart (a ++ t) = trimStart a ++ t := by
  have kept : trimStart a ≠ [] := by
    intro none
    rw [(trimStart_eq_nil_iff a).mp none] at text
    cases text
  rw [trimStart, List.dropWhile_append, if_neg (by simpa [trimStart] using kept)]
  rfl

theorem trimEnd_append_of_isBlank (t : Text) {a : Text} (blank : isBlank a) :
    trimEnd (t ++ a) = trimEnd t := by
  have turned : isBlank a.reverse := by simpa [isBlank] using blank
  rw [trimEnd, List.reverse_append]
  exact congrArg List.reverse (trimStart_append_of_isBlank turned t.reverse)

theorem exists_eq_trimEnd_append (t : Text) : ∃ a, isBlank a ∧ t = trimEnd t ++ a := by
  refine ⟨(t.reverse.takeWhile isSpace).reverse, ?_, ?_⟩
  · rw [isBlank, List.all_reverse]
    exact List.all_takeWhile
  · rw [trimEnd, ← List.reverse_append, List.takeWhile_append_dropWhile, List.reverse_reverse]

theorem trim_append_of_isBlank (t : Text) {a : Text} (blank : isBlank a) : trim (t ++ a) = trim t := by
  cases text : isBlank t with
  | true =>
    have both : isBlank (t ++ a) := by rw [isBlank_append, text, blank]; rfl
    rw [(trim_eq_nil_iff _).mpr both, (trim_eq_nil_iff _).mpr text]
  | false => rw [trim, trimStart_append text, trimEnd_append_of_isBlank _ blank, trim]

theorem trim_trimEnd (t : Text) : trim (trimEnd t) = trim t := by
  obtain ⟨a, blank, parts⟩ := exists_eq_trimEnd_append t
  calc trim (trimEnd t) = trim (trimEnd t ++ a) := (trim_append_of_isBlank _ blank).symm
    _ = trim t := by rw [← parts]

theorem isBlank_trimEnd (t : Text) : isBlank (trimEnd t) = isBlank t := by
  obtain ⟨a, blank, parts⟩ := exists_eq_trimEnd_append t
  calc isBlank (trimEnd t) = isBlank (trimEnd t ++ a) := by rw [isBlank_append, blank, Bool.and_true]
    _ = isBlank t := by rw [← parts]

theorem trim_eq_self {t : Text} (text : ∀ c ∈ t, isSpace c = false) : trim t = t := by
  have start : trimStart t = t := by
    cases t with
    | nil => rfl
    | cons c t => simp [trimStart, text c List.mem_cons_self]
  have turned : t.reverse.dropWhile isSpace = t.reverse := by
    cases reversed : t.reverse with
    | nil => rfl
    | cons c r =>
      have member : c ∈ t := List.mem_reverse.mp (by simp [reversed])
      simp [text c member]
  rw [trim, start, trimEnd, turned, List.reverse_reverse]

end Text
end Offside
