import Offside.Text.Basic

/-!
How deep a line is indented, and whether it looks like the header of an indented block. Both look at the
characters of the line alone: nothing is parsed, so a line may pass for a header without being valid source.
-/

namespace Offside.Line

/-- The number of spaces a line begins with. Only U+0020 counts, so a tab ends the count. -/
def indent (l : Text) : Nat := (l.takeWhile (· = ' ')).length

/-- The words that open a block when one space follows them. -/
def keywords : List Text :=
  [['d', 'e', 'f'], ['c', 'l', 'a', 's', 's'], ['i', 'f'], ['f', 'o', 'r'], ['w', 'h', 'i', 'l', 'e'],
   ['w', 'i', 't', 'h']]

def beginsWithKeyword (t : Text) : Bool := keywords.any fun word => (word ++ [' ']).isPrefixOf t

/-- Trimmed text opens a block by a keyword, as a decorator, or by a colon at its end unless it is a comment. -/
def opensBlock (t : Text) : Bool :=
  beginsWithKeyword t || t.head? = some '@' || ['t', 'r', 'y', ':'].isPrefixOf t ||
    (t.getLast? = some ':' && t.head? ≠ some '#')

def isHeader (l : Text) : Bool := opensBlock (Text.trim l)

/-- Whether a line belongs to the body of a block whose header has the given indentation. -/
def isBody (depth : Nat) (l : Text) : Bool := !Text.isBlank l && depth < indent l

@[simp] theorem opensBlock_nil : opensBlock [] = false := by decide

theorem isHeader_of_isBlank {l : Text} (blank : Text.isBlank l) : isHeader l = false := by
  simp [isHeader, (Text.trim_eq_nil_iff l).2 blank]

theorem opensBlock_comment (t : Text) : opensBlock ('#' :: t) = false := by
  have noKeyword : beginsWithKeyword ('#' :: t) = false := rfl
  have noTry : ['t', 'r', 'y', ':'].isPrefixOf ('#' :: t) = false := rfl
  simp [opensBlock, noKeyword, noTry]

/-- A line that does nothing, blank or a comment, is no header. -/
theorem isHeader_of_idle {l : Text} (idle : Text.trim l = [] ∨ (Text.trim l).head? = some '#') :
    isHeader l = false := by
  rcases idle with none | comment
  · exact isHeader_of_isBlank ((Text.trim_eq_nil_iff l).1 none)
  · obtain ⟨t, parts⟩ := List.head?_eq_some_iff.1 comment
    rw [isHeader, parts, opensBlock_comment]

theorem isBlank_of_isHeader {l : Text} (header : isHeader l) : Text.isBlank l = false := by
  rw [Bool.eq_false_iff]
  intro blank
  rw [isHeader_of_isBlank blank] at header
  cases header

theorem isHeader_trimEnd (l : Text) : isHeader (Text.trimEnd l) = isHeader l := by
  rw [isHeader, Text.trim_trimEnd, isHeader]

theorem isBody_iff (depth : Nat) (l : Text) :
    isBody depth l ↔ Text.isBlank l = false ∧ depth < indent l := by
  simp [isBody]

theorem indent_append_of_head (l : Text) {t : Text} (other : t.head? ≠ some ' ') :
    indent (l ++ t) = indent l := by
  have none : t.takeWhile (· = ' ') = [] := by
    cases t with
    | nil => rfl
    | cons c t =>
      have ends : ¬ c = ' ' := by simpa using other
      simp [ends]
  rw [indent, indent, List.takeWhile_append, none, List.append_nil]
  split
  · next all => exact all.symm
  · rfl

/-- A character that is no space ends the count. -/
theorem indent_append {l : Text} (text : Text.isBlank l = false) (t : Text) : indent (l ++ t) = indent l := by
  induction l with
  | nil => cases text
  | cons c l ih =>
    by_cases space : c = ' '
    · subst space
      have rest : Text.isBlank l = false := text
      simpa [indent] using ih rest
    · simp [indent, space]

theorem indent_trimEnd {l : Text} (text : Text.isBlank l = false) : indent (Text.trimEnd l) = indent l := by
  obtain ⟨a, _, parts⟩ := Text.exists_eq_trimEnd_append l
  rw [← Text.isBlank_trimEnd] at text
  calc indent (Text.trimEnd l) = indent (Text.trimEnd l ++ a) := (indent_append text a).symm
    _ = indent l := by rw [← parts]

end Offside.Line
