import Offside.Text.Basic

/-!
Two readings of a text as lines. `pieces` takes the newline as a separator: there is always a piece, every
character but the newlines is kept, and `join` puts the text together again. `lines` takes it as a
terminator: each line loses its newline and one carriage return before it, and the empty piece after the
last newline is no line.
-/

namespace Offside.Text

def pieces : Text → List Text
  | [] => [[]]
  | c :: t =>
    if c = '\n' then [] :: pieces t
    else match pieces t with
      | [] => [[c]]
      | piece :: more => (c :: piece) :: more

def join : List Text → Text
  | [] => []
  | [piece] => piece
  | piece :: more => piece ++ '\n' :: join more

theorem pieces_ne_nil (t : Text) : pieces t ≠ [] := by
  cases t with
  | nil => simp [pieces]
  | cons c t =>
    simp only [pieces]
    split
    · simp
    · split <;> simp

theorem pieces_newline_cons (t : Text) : pieces ('\n' :: t) = [] :: pieces t := by
  simp [pieces]

theorem join_cons_of_ne_nil (piece : Text) {more : List Text} (h : more ≠ []) :
    join (piece :: more) = piece ++ '\n' :: join more := by
  cases more with
  | nil => exact absurd rfl h
  | cons next rest => rfl

theorem join_cons_head (c : Char) (piece : Text) (more : List Text) :
    join ((c :: piece) :: more) = c :: join (piece :: more) := by
  cases more <;> rfl

theorem join_pieces (t : Text) : join (pieces t) = t := by
  induction t with
  | nil => rfl
  | cons c t ih =>
    by_cases h : c = '\n'
    · subst h
      rw [pieces_newline_cons, join_cons_of_ne_nil _ (pieces_ne_nil t), ih]
      rfl
    · simp only [pieces, h, if_false]
      split
      · next none => exact absurd none (pieces_ne_nil t)
      · next piece more some => rw [join_cons_head, ← some, ih]

theorem not_mem_of_mem_pieces {t piece : Text} (h : piece ∈ pieces t) : '\n' ∉ piece := by
  induction t generalizing piece with
  | nil => simp only [pieces, List.mem_singleton] at h; simp [h]
  | cons c t ih =>
    by_cases nl : c = '\n'
    · subst nl
      rw [pieces_newline_cons, List.mem_cons] at h
      rcases h with rfl | h
      · simp
      · exact ih h
    · simp only [pieces, nl, if_false] at h
      split at h
      · next none => exact absurd none (pieces_ne_nil t)
      · next first more some =>
        rw [List.mem_cons] at h
        rcases h with rfl | h
        · have : '\n' ∉ first := ih (by simp [some])
          simp only [List.mem_cons, not_or]
          exact ⟨fun e => nl e.symm, this⟩
        · exact ih (by simp [some, h])

theorem length_pieces (t : Text) : (pieces t).length = t.count '\n' + 1 := by
  induction t with
  | nil => rfl
  | cons c t ih =>
    by_cases h : c = '\n'
    · subst h; simp [pieces, ih]
    · simp only [pieces, h, if_false]
      split
      · next none => exact absurd none (pieces_ne_nil t)
      · next first more some => simp_all

theorem pieces_of_not_mem {piece : Text} (clean : '\n' ∉ piece) : pieces piece = [piece] := by
  induction piece with
  | nil => rfl
  | cons c piece ih =>
    rw [List.mem_cons, not_or] at clean
    rw [pieces, if_neg (Ne.symm clean.1), ih clean.2]

theorem pieces_append_newline {piece : Text} (clean : '\n' ∉ piece) (t : Text) :
    pieces (piece ++ '\n' :: t) = piece :: pieces t := by
  induction piece with
  | nil => exact pieces_newline_cons t
  | cons c piece ih =>
    rw [List.mem_cons, not_or] at clean
    rw [List.cons_append, pieces, if_neg (Ne.symm clean.1), ih clean.2]

theorem pieces_join {ls : List Text} (some : ls ≠ []) (clean : ∀ l ∈ ls, '\n' ∉ l) : pieces (join ls) = ls := by
  induction ls with
  | nil => exact absurd rfl some
  | cons l more ih =>
    have first : '\n' ∉ l := clean l List.mem_cons_self
    cases more with
    | nil => exact pieces_of_not_mem first
    | cons next rest =>
      have others : pieces (join (next :: rest)) = next :: rest :=
        ih (List.cons_ne_nil _ _) fun piece member => clean piece (List.mem_cons_of_mem _ member)
      rw [join_cons_of_ne_nil l (List.cons_ne_nil _ _), pieces_append_newline first, others]

theorem isBlank_join (ls : List Text) : isBlank (join ls) = ls.all isBlank := by
  fun_induction join ls with
  | case1 => rfl
  | case2 l => simp
  | case3 l more _ ih =>
    have newline : isBlank ('\n' :: join more) = isBlank (join more) := rfl
    rw [isBlank_append, newline, ih, List.all_cons]

theorem mem_join {ls : List Text} {l : Text} (member : l ∈ ls) {c : Char} (inside : c ∈ l) : c ∈ join ls := by
  fun_induction join ls with
  | case1 => cases member
  | case2 piece => rwa [← List.mem_singleton.mp member]
  | case3 piece more _ ih =>
    rcases List.mem_cons.mp member with rfl | later
    · exact List.mem_append_left _ inside
    · exact List.mem_append_right _ (List.mem_cons_of_mem _ (ih later))

/-! ### Newlines after lines -/

def dropReturn (line : Text) : Text :=
  if line.getLast? = some '\r' then line.dropLast else line

/-- Pieces read as lines: all but the last had a newline after them. -/
def terminated : List Text → List Text
  | [] => []
  | [piece] => if piece = [] then [] else [piece]
  | piece :: more => dropReturn piece :: terminated more

/-- The lines of a text. A carriage return at the very end is part of the last line. -/
def lines (t : Text) : List Text := terminated (pieces t)

theorem dropReturn_eq_or (line : Text) : dropReturn line = line ∨ line = dropReturn line ++ ['\r'] := by
  unfold dropReturn
  split
  · next ends =>
    obtain ⟨start, rfl⟩ := List.getLast?_eq_some_iff.mp ends
    rw [List.dropLast_concat]
    exact .inr rfl
  · exact .inl rfl

theorem dropReturn_append_return (l : Text) : dropReturn (l ++ ['\r']) = l := by
  simp [dropReturn]

theorem dropReturn_of_not_mem {l : Text} (clean : '\r' ∉ l) : dropReturn l = l := by
  rw [dropReturn, if_neg]
  exact fun ends => clean (List.mem_of_getLast? ends)

theorem dropReturn_eq_self_iff (l : Text) : dropReturn l = l ↔ l.getLast? ≠ some '\r' := by
  constructor
  · intro same ends
    obtain ⟨start, rfl⟩ := List.getLast?_eq_some_iff.mp ends
    rw [dropReturn_append_return] at same
    simp at same
  · intro other
    simp [dropReturn, other]

theorem terminated_concat (above : List Text) (l : Text) :
    terminated (above ++ [l]) = above.map dropReturn ++ if l = [] then [] else [l] := by
  induction above with
  | nil => rfl
  | cons piece above ih =>
    obtain ⟨next, rest, some⟩ := List.exists_cons_of_ne_nil (show above ++ [l] ≠ [] by simp)
    rw [List.cons_append, some, terminated, ← some, ih]
    · rfl
    · exact List.cons_ne_nil _ _

theorem tail_terminated (ls : List Text) : (terminated ls).tail = terminated ls.tail := by
  fun_cases terminated ls with
  | case1 => rfl
  | case2 => rfl
  | case3 => rfl
  | case4 => rfl

theorem exists_of_mem_terminated {ls : List Text} {l : Text} (member : l ∈ terminated ls) :
    ∃ piece ∈ ls, l = piece ∨ piece = l ++ ['\r'] := by
  fun_induction terminated ls with
  | case1 => cases member
  | case2 => cases member
  | case3 piece => exact ⟨piece, List.mem_cons_self, .inl (List.mem_singleton.mp member)⟩
  | case4 piece more _ ih =>
    rcases List.mem_cons.mp member with rfl | later
    · refine ⟨piece, List.mem_cons_self, ?_⟩
      rcases dropReturn_eq_or piece with same | cut
      · exact .inl same
      · exact .inr cut
    · obtain ⟨other, found, read⟩ := ih later
      exact ⟨other, List.mem_cons_of_mem _ found, read⟩

theorem isBlank_append_return (l : Text) : isBlank (l ++ ['\r']) = isBlank l := by
  rw [isBlank_append, show isBlank ['\r'] = true by decide, Bool.and_true]

theorem isBlank_of_read {l piece : Text} (read : l = piece ∨ piece = l ++ ['\r']) : isBlank l = isBlank piece := by
  rcases read with rfl | rfl
  · rfl
  · exact (isBlank_append_return l).symm

theorem not_mem_of_read {l piece : Text} (read : l = piece ∨ piece = l ++ ['\r']) (clean : '\n' ∉ piece) :
    '\n' ∉ l := by
  rcases read with rfl | rfl
  · exact clean
  · exact fun member => clean (List.mem_append_left _ member)

theorem not_mem_of_mem_lines {t l : Text} (member : l ∈ lines t) : '\n' ∉ l := by
  obtain ⟨piece, found, read⟩ := exists_of_mem_terminated member
  exact not_mem_of_read read (not_mem_of_mem_pieces found)

theorem lines_join {ls : List Text} (some : ls ≠ []) (clean : ∀ l ∈ ls, '\n' ∉ l) :
    lines (join ls) = terminated ls := by
  rw [lines, pieces_join some clean]

def unlines (ls : List Text) : Text := ls.flatMap (· ++ ['\n'])

@[simp] theorem unlines_nil : unlines [] = [] := rfl

@[simp] theorem unlines_cons (l : Text) (ls : List Text) : unlines (l :: ls) = l ++ '\n' :: unlines ls := by
  simp [unlines]

theorem unlines_append (a b : List Text) : unlines (a ++ b) = unlines a ++ unlines b := by
  simp [unlines]

theorem unlines_concat_nil (ls : List Text) : unlines (ls ++ [[]]) = unlines ls ++ ['\n'] := unlines_append ls [[]]

theorem join_append (a : List Text) {b : List Text} (some : b ≠ []) : join (a ++ b) = unlines a ++ join b := by
  induction a with
  | nil => simp
  | cons l a ih =>
    have more : a ++ b ≠ [] := List.append_ne_nil_of_right_ne_nil a some
    rw [List.cons_append, join_cons_of_ne_nil l more, ih]
    simp

theorem pieces_unlines {ls : List Text} (clean : ∀ l ∈ ls, '\n' ∉ l) : pieces (unlines ls) = ls ++ [[]] := by
  induction ls with
  | nil => rfl
  | cons l more ih =>
    rw [List.forall_mem_cons] at clean
    rw [unlines_cons, pieces_append_newline clean.1, ih clean.2, List.cons_append]

theorem lines_unlines {ls : List Text} (clean : ∀ l ∈ ls, '\n' ∉ l) : lines (unlines ls) = ls.map dropReturn := by
  rw [lines, pieces_unlines clean, terminated_concat]
  simp

/-! ### Carriage returns before newlines -/

def withReturns (t : Text) : Text := t.flatMap fun c => if c = '\n' then ['\r', '\n'] else [c]

/-- Pieces with a carriage return after each but the last. -/
def returned : List Text → List Text
  | [] => []
  | [piece] => [piece]
  | piece :: more => (piece ++ ['\r']) :: returned more

/-- Pieces without a carriage return at the end, the last of them left as it is. -/
def unreturned : List Text → List Text
  | [] => []
  | [piece] => [piece]
  | piece :: more => dropReturn piece :: unreturned more

theorem returned_cons_of_ne_nil (piece : Text) {more : List Text} (h : more ≠ []) :
    returned (piece :: more) = (piece ++ ['\r']) :: returned more := by
  cases more with
  | nil => exact absurd rfl h
  | cons next rest => rfl

theorem pieces_withReturns (t : Text) : pieces (withReturns t) = returned (pieces t) := by
  induction t with
  | nil => rfl
  | cons c t ih =>
    by_cases h : c = '\n'
    · subst h
      have cut : withReturns ('\n' :: t) = ['\r'] ++ '\n' :: withReturns t := rfl
      rw [cut, pieces_append_newline (by decide), ih, pieces_newline_cons,
        returned_cons_of_ne_nil _ (pieces_ne_nil t)]
      rfl
    · have cut : withReturns (c :: t) = c :: withReturns t := by simp [withReturns, h]
      obtain ⟨piece, more, some⟩ := List.exists_cons_of_ne_nil (pieces_ne_nil t)
      rw [cut, pieces, if_neg h, ih, pieces, if_neg h, some]
      cases more <;> rfl

theorem map_returned {α : Type} {g : Text → α} (same : ∀ l, g (l ++ ['\r']) = g l) (ls : List Text) :
    (returned ls).map g = ls.map g := by
  fun_induction returned ls with
  | case1 => rfl
  | case2 => rfl
  | case3 piece more _ ih => rw [List.map_cons, List.map_cons, same, ih]

theorem length_returned (ls : List Text) : (returned ls).length = ls.length := by
  fun_induction returned ls with
  | case1 => rfl
  | case2 => rfl
  | case3 piece more _ ih => rw [List.length_cons, ih, List.length_cons]

theorem length_unreturned (ls : List Text) : (unreturned ls).length = ls.length := by
  fun_induction unreturned ls with
  | case1 => rfl
  | case2 => rfl
  | case3 piece more _ ih => rw [List.length_cons, ih, List.length_cons]

/-- Only an empty piece at the end is no line. -/
theorem terminated_eq_unreturned {ls : List Text} (text : ∀ l ∈ ls, l ≠ []) : terminated ls = unreturned ls := by
  fun_induction unreturned ls with
  | case1 => rfl
  | case2 piece => exact if_neg (text piece List.mem_cons_self)
  | case3 piece more nonempty ih =>
    rw [terminated, ih fun l member => text l (List.mem_cons_of_mem _ member)]
    exact nonempty

end Offside.Text
