import Mathlib.Algebra.BigOperators.Group.List.Basic
import Mathlib.Algebra.GroupWithZero.Nat
import Mathlib.Data.List.Infix
import Offside.Sink

/-!
What a sink takes of one piece after another is what it takes of them as one piece (`take_take`), so a row of
deliveries leaves in it what a single offer of all their bytes would, however the limit falls among them.
-/

namespace Offside.Sink

open Utf8 (Bytes)

variable {s : Sink}

theorem take_take (s : Sink) (a b : Bytes) : (s.take a).take b = s.take (a ++ b) := by
  obtain ⟨room, flushes, held⟩ := s
  cases room with
  | none => simp [take]
  | some room => simp [take, List.take_append, Nat.sub_sub]

@[simp] theorem take_nil (s : Sink) : s.take [] = s := by
  obtain ⟨room, flushes, held⟩ := s
  cases room <;> simp [take]

@[simp] theorem fits_zero (s : Sink) : s.fits 0 := by
  obtain ⟨room, flushes, held⟩ := s
  cases room <;> simp [fits]

@[simp] theorem flushes_take (s : Sink) (a : Bytes) : (s.take a).flushes = s.flushes := by
  unfold take
  split <;> rfl

theorem held_flushed_take (s : Sink) (a : Bytes) : (s.flushed.take a).held = (s.take a).held := by
  obtain ⟨room, flushes, held⟩ := s
  cases room <;> rfl

/-- A sink that was offered more than fits has no room left, so after that nothing but an empty piece fits. -/
theorem fits_take (s : Sink) (a : Bytes) {count : Nat} (some : 0 < count) :
    (s.take a).fits count = s.fits (a.length + count) := by
  obtain ⟨room, flushes, held⟩ := s
  cases room with
  | none => rfl
  | some room =>
    simp only [take, fits, Option.all_some, decide_eq_decide]
    omega

theorem fits_of_le {count more : Nat} (le : count ≤ more) (fits : s.fits more) : s.fits count := by
  obtain ⟨room, flushes, held⟩ := s
  cases room with
  | none => rfl
  | some room =>
    simp only [Sink.fits, Option.all_some, decide_eq_true_eq] at fits ⊢
    omega

theorem take_append_of_not_fits {a : Bytes} (refused : s.fits a.length = false) (b : Bytes) :
    s.take (a ++ b) = s.take a := by
  obtain ⟨room, flushes, held⟩ := s
  cases room with
  | none => simp [fits] at refused
  | some room =>
    simp only [fits, Option.all_some, decide_eq_false_iff_not, Nat.not_le] at refused
    simp only [take, List.length_append, List.take_append_of_le_length (Nat.le_of_lt refused), mk.injEq, and_true,
      Option.some.injEq]
    omega

theorem write_eq (s : Sink) (pieces : List Bytes) :
    s.write pieces = (s.fits pieces.flatten.length, s.take pieces.flatten) := by
  induction pieces generalizing s with
  | nil => simp [write]
  | cons piece more ih =>
    rw [write, ih, List.flatten_cons, List.length_append]
    by_cases fits : s.fits piece.length
    · rw [if_pos fits, take_take]
      rcases Nat.eq_zero_or_pos more.flatten.length with none | some
      · simp [none, fits]
      · rw [fits_take s piece some]
    · have refused : s.fits (piece.length + more.flatten.length) = false := by
        rw [← Bool.not_eq_true]
        exact fun all => fits (fits_of_le (Nat.le_add_right ..) all)
      rw [if_neg fits, refused, take_append_of_not_fits (Bool.eq_false_iff.mpr fits)]

def offer (code : Text) : Bytes := Utf8.encode code ++ [0x0A]

/-- What comes of the delivery of this index when that many bytes have been offered at its end. -/
def verdict (s : Sink) (i count : Nat) : Except Refusal Unit :=
  if s.fits count then (if s.flushes i then .ok () else .error .flush) else .error .full

theorem deliver_eq (s : Sink) (code : Text) :
    s.deliver code = (s.verdict 0 (offer code).length,
      if s.fits (offer code).length then (s.take (offer code)).flushed else s.take (offer code)) := by
  have offered : [Utf8.encode code, Utf8.encode ['\n']].flatten = offer code := by simp [offer]; rfl
  unfold deliver verdict
  rw [write_eq, offered]
  cases s.fits (offer code).length <;> simp

theorem held_deliver_take (s : Sink) (code : Text) (a : Bytes) :
    ((s.deliver code).2.take a).held = (s.take (offer code ++ a)).held := by
  rw [deliver_eq, ← take_take]
  split
  · exact held_flushed_take _ a
  · rfl

/-- How many bytes there are in codes, with a newline for each of them. -/
def size (codes : List Text) : Nat := (codes.map fun code => (Utf8.encode code).length).sum + codes.length

theorem length_offers (codes : List Text) : (codes.flatMap offer).length = size codes := by
  induction codes with
  | nil => rfl
  | cons code codes ih =>
    simp only [List.flatMap_cons, List.length_append, ih, offer, size, List.map_cons, List.sum_cons, List.length_cons,
      List.length_nil]
    omega

theorem size_take_le (codes : List Text) {i j : Nat} (le : i ≤ j) : size (codes.take i) ≤ size (codes.take j) := by
  have start : codes.take i <+: codes.take j := List.take_prefix_take_left le
  rw [← length_offers, ← length_offers]
  exact (List.IsPrefix.flatMap start offer).length_le

theorem size_take_pos {codes : List Text} {i : Nat} (present : i < codes.length) : 0 < size (codes.take (i + 1)) := by
  rw [size, List.length_take]
  omega

/-- The next delivery finds the next flush, unless this one was refused and there is no room left. -/
theorem verdict_deliver (s : Sink) (code : Text) (i : Nat) {count : Nat} (some : 0 < count) :
    (s.deliver code).2.verdict i count = s.verdict (i + 1) ((offer code).length + count) := by
  have room : (s.take (offer code)).fits count = s.fits ((offer code).length + count) := fits_take s _ some
  by_cases fits : s.fits (offer code).length
  · have after : (s.deliver code).2 = (s.take (offer code)).flushed := by rw [deliver_eq, if_pos fits]
    rw [after, verdict, verdict, ← room, ← flushes_take s (offer code)]
    rfl
  · have after : (s.deliver code).2 = s.take (offer code) := by rw [deliver_eq, if_neg fits]
    have refused : ¬ s.fits ((offer code).length + count) := fun all => fits (fits_of_le (Nat.le_add_right ..) all)
    rw [after, verdict, verdict, room, if_neg refused, if_neg refused]

theorem held_deliverAll (s : Sink) (codes : List Text) :
    (s.deliverAll codes).2.held = (s.take (codes.flatMap offer)).held := by
  induction codes generalizing s with
  | nil => simp [deliverAll]
  | cons code codes ih => rw [List.flatMap_cons, ← held_deliver_take, ← ih, deliverAll]

theorem length_deliverAll (s : Sink) (codes : List Text) : (s.deliverAll codes).1.length = codes.length := by
  induction codes generalizing s with
  | nil => rfl
  | cons code codes ih => simp only [deliverAll, List.length_cons, ih]

/-- Each delivery gets its verdict on all the bytes up to its end. -/
theorem getElem?_deliverAll (s : Sink) {codes : List Text} {i : Nat} (present : i < codes.length) :
    (s.deliverAll codes).1[i]? = some (s.verdict i (size (codes.take (i + 1)))) := by
  induction codes generalizing s i with
  | nil => cases present
  | cons code codes ih =>
    cases i with
    | zero => simp [deliverAll, deliver_eq, ← length_offers]
    | succ i =>
      have later : i < codes.length := Nat.lt_of_succ_lt_succ present
      simp only [deliverAll, List.getElem?_cons_succ]
      rw [ih _ later, verdict_deliver _ _ _ (size_take_pos later), ← length_offers, ← length_offers, List.take_succ_cons,
        List.flatMap_cons, List.length_append]

theorem verdict_eq_full_iff (s : Sink) (i count : Nat) : s.verdict i count = .error .full ↔ ¬ s.fits count := by
  unfold verdict
  cases s.fits count <;> cases s.flushes i <;> simp

theorem refused_iff (s : Sink) {codes : List Text} {i : Nat} (present : i < codes.length) :
    (s.deliverAll codes).1[i]? = some (.error .full) ↔ ¬ s.fits (size (codes.take (i + 1))) := by
  rw [getElem?_deliverAll s present, Option.some.injEq, verdict_eq_full_iff]

theorem refused_of_le {codes : List Text} {i j : Nat} (le : i ≤ j) (present : j < codes.length)
    (refused : (s.deliverAll codes).1[i]? = some (.error .full)) :
    (s.deliverAll codes).1[j]? = some (.error .full) := by
  rw [refused_iff s (Nat.lt_of_le_of_lt le present)] at refused
  rw [refused_iff s present]
  exact fun fits => refused (fits_of_le (size_take_le codes (Nat.succ_le_succ le)) fits)

theorem offers_prefix_held {codes : List Text} {i : Nat} (fits : s.fits (size (codes.take (i + 1)))) :
    s.held ++ (codes.take (i + 1)).flatMap offer <+: (s.deliverAll codes).2.held := by
  have parts : codes.flatMap offer = (codes.take (i + 1)).flatMap offer ++ (codes.drop (i + 1)).flatMap offer := by
    rw [← List.flatMap_append, List.take_append_drop]
  rw [← length_offers] at fits
  rw [held_deliverAll, parts, ← take_take, ← held_take_of_fits s _ fits]
  exact held_prefix_take _ _

theorem fits_iff (s : Sink) (count : Nat) : s.fits count ↔ ∀ limit ∈ s.room, count ≤ limit := by
  unfold fits
  cases s.room <;> simp

theorem held_take (s : Sink) (bytes : Bytes) :
    (s.take bytes).held = s.held ++ bytes.take (s.room.elim bytes.length (min · bytes.length)) := by
  unfold take
  cases s.room with
  | none => simp
  | some limit => simp [List.take_eq_take_iff]

/-- A sink that runs out of room holds, after what it held before, exactly the start of what was delivered to it,
    up to the limit. A delivery could write if all the bytes up to its end are within the limit; it then
    goes well unless its flush is refused, and either way its bytes stay. If they are not, it is refused,
    and so is every delivery after it. -/
theorem deliverAll_holds_start (s : Sink) (codes : List Text) :
    let results := (s.deliverAll codes).1
    let held := (s.deliverAll codes).2.held
    held = s.held ++ (codes.flatMap offer).take (s.room.elim (size codes) (min · (size codes))) ∧
      results.length = codes.length ∧
      (∀ i, i < codes.length →
        (results[i]? = some (.error .full) ↔ ¬ ∀ limit ∈ s.room, size (codes.take (i + 1)) ≤ limit) ∧
          ((∀ limit ∈ s.room, size (codes.take (i + 1)) ≤ limit) →
            results[i]? = some (if s.flushes i then .ok () else .error .flush) ∧
              s.held ++ (codes.take (i + 1)).flatMap offer <+: held)) ∧
      ∀ i j, i ≤ j → j < codes.length → results[i]? = some (.error .full) → results[j]? = some (.error .full) := by
  intro results held
  refine ⟨?_, length_deliverAll _ codes, ?_, fun i j => refused_of_le⟩
  · rw [← length_offers, ← held_take, ← held_deliverAll]
  · intro i present
    rw [← fits_iff s]
    refine ⟨refused_iff _ present, ?_⟩
    intro fits
    refine ⟨?_, offers_prefix_held fits⟩
    rw [getElem?_deliverAll _ present, verdict, if_pos fits]

/-- The first flush is refused. The limit falls within a character of the third code, and after that not even an empty code gets in. -/
theorem deliverAll_holds_start_six :
    let s : Sink := { fresh (some 6) true with flushes := (· ≠ 0) }
    let codes := ["é".toList, "a".toList, "ñb".toList, []]
    let results := (s.deliverAll codes).1
    results[0]? = some (.error .flush) ∧ results[1]? = some (.ok ()) ∧ results[2]? = some (.error .full) ∧
      results[3]? = some (.error .full) ∧
      (s.deliverAll codes).2.held = [0xC3, 0xA9, 0x0A, 0x61, 0x0A, 0xC3] := by
  intro s codes results
  obtain ⟨holds, _, each, later⟩ := deliverAll_holds_start s codes
  have first := ((each 0 (by decide)).2 (by decide)).1
  have second := ((each 1 (by decide)).2 (by decide)).1
  have third := (each 2 (by decide)).1.mpr (by decide)
  refine ⟨first, second, third, later 2 3 (by decide) (by decide) third, ?_⟩
  rw [holds]
  rfl

end Offside.Sink
