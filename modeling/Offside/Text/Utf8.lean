import Offside.Text.Basic

/-!
Text as bytes, and bytes as text. A sequence is well formed when it is one of those that `encode` writes: no
overlong form, no surrogate, nothing above U+10FFFF. `decode?` refuses all others, and `decodeLossy` shows
one replacement character for each longest start of a sequence that goes wrong.
-/

namespace Offside.Utf8

abbrev Bytes := List UInt8

/-- The bytes of the character with code point `n`: one byte below U+0080, and otherwise a byte that tells how many
    there are, followed by six bits of `n` in each of the others. -/
def encodePoint (n : Nat) : List Nat :=
  if n < 0x80 then [n]
  else if n < 0x800 then [0xC0 + n / 64, 0x80 + n % 64]
  else if n < 0x10000 then [0xE0 + n / 4096, 0x80 + n / 64 % 64, 0x80 + n % 64]
  else [0xF0 + n / 262144, 0x80 + n / 4096 % 64, 0x80 + n / 64 % 64, 0x80 + n % 64]

def encodeChar (c : Char) : Bytes := (encodePoint c.toNat).map UInt8.ofNat

def encode (t : Text) : Bytes := t.flatMap encodeChar

/-- Where reading stands between two bytes. -/
inductive State where
  | between
  /-- Within a sequence: its next byte lies from `low` to `high`, `more` bytes come after that one, and the bytes so
      far make up `value`. -/
  | within (more low high value : Nat)
  deriving DecidableEq, Repr

/-- Reads a byte between two sequences. Answers with what it makes out, which is `none` where the byte can begin no
    sequence, and with the state after it. -/
def first (b : Nat) : List (Option Char) × State :=
  if b < 0x80 then ([some (Char.ofNat b)], .between)
  else if b < 0xC2 then ([none], .between)
  else if b < 0xE0 then ([], .within 0 0x80 0xBF (b - 0xC0))
  else if b < 0xF0 then
    ([], .within 1 (if b = 0xE0 then 0xA0 else 0x80) (if b = 0xED then 0x9F else 0xBF) (b - 0xE0))
  else if b < 0xF5 then
    ([], .within 2 (if b = 0xF0 then 0x90 else 0x80) (if b = 0xF4 then 0x8F else 0xBF) (b - 0xF0))
  else ([none], .between)

/-- A byte that does not go on with the sequence it comes in breaks that off and is read as the first of another. -/
def step : State → Nat → List (Option Char) × State
  | .between, b => first b
  | .within more low high value, b =>
    if low ≤ b ∧ b ≤ high then
      match more with
      | 0 => ([some (Char.ofNat (64 * value + (b - 0x80)))], .between)
      | more + 1 => ([], .within more 0x80 0xBF (64 * value + (b - 0x80)))
    else (none :: (first b).1, (first b).2)

/-- A character for each sequence that is well formed, `none` for each that is not. -/
def sequences : State → Bytes → List (Option Char)
  | .between, [] => []
  | .within .., [] => [none]
  | state, b :: bytes => (step state b.toNat).1 ++ sequences (step state b.toNat).2 bytes

def decode? (bytes : Bytes) : Option Text := (sequences .between bytes).mapM id

/-- The text that the bytes show as, with U+FFFD for what is not well formed. -/
def decodeLossy (bytes : Bytes) : Text := (sequences .between bytes).map (·.getD '\uFFFD')

/-! ### What is written can be read -/

/-- The code point `n` without its last `k` groups of six bits. -/
def bitsAbove : (k n : Nat) → Nat
  | 0, n => n
  | k + 1, n => bitsAbove k n / 64

theorem bitsAbove_add (k n : Nat) : 64 * bitsAbove (k + 1) n + (0x80 + bitsAbove k n % 64 - 0x80) = bitsAbove k n := by
  rw [bitsAbove]
  omega

/-- The last `k` bytes of the character with code point `n`, each with a group of six bits. -/
def lastBytes : (k n : Nat) → List Nat
  | 0, _ => []
  | k + 1, n => (0x80 + bitsAbove k n % 64) :: lastBytes k n

theorem encodePoint_of_one {n : Nat} (lt : n < 0x80) : encodePoint n = [n] := by
  rw [encodePoint, if_pos lt]

theorem encodePoint_of_two {n : Nat} (ge : 0x80 ≤ n) (lt : n < 0x800) :
    encodePoint n = (0xC0 + n / 64) :: lastBytes 1 n := by
  rw [encodePoint, if_neg (by omega), if_pos lt]
  rfl

theorem encodePoint_of_three {n : Nat} (ge : 0x800 ≤ n) (lt : n < 0x10000) :
    encodePoint n = (0xE0 + n / 4096) :: lastBytes 2 n := by
  rw [encodePoint, if_neg (by omega), if_neg (by omega), if_pos lt]
  rfl

theorem encodePoint_of_four {n : Nat} (ge : 0x10000 ≤ n) : encodePoint n = (0xF0 + n / 262144) :: lastBytes 3 n := by
  rw [encodePoint, if_neg (by omega), if_neg (by omega), if_neg (by omega)]
  simp [lastBytes, bitsAbove, Nat.div_div_eq_div_mul]

theorem sequences_cons {k : Nat} (small : k < 256) (state : State) (bytes : Bytes) :
    sequences state (UInt8.ofNat k :: bytes) =
      (step state k).1 ++ sequences (step state k).2 bytes := by
  have same : (UInt8.ofNat k).toNat = k := by simp only [UInt8.toNat_ofNat']; omega
  cases state <;> rw [sequences, same]

theorem step_within_succ {low high b : Nat} (least : low ≤ b) (most : b ≤ high) (more value : Nat) :
    step (.within (more + 1) low high value) b = ([], .within more 0x80 0xBF (64 * value + (b - 0x80))) := by
  simp only [step]; rw [if_pos ⟨least, most⟩]

theorem step_within_zero {low high b : Nat} (least : low ≤ b) (most : b ≤ high) (value : Nat) :
    step (.within 0 low high value) b = ([some (Char.ofNat (64 * value + (b - 0x80)))], .between) := by
  simp only [step]; rw [if_pos ⟨least, most⟩]

theorem toNat_bounds (c : Char) : c.toNat < 0xD800 ∨ 0xDFFF < c.toNat ∧ c.toNat < 0x110000 := c.valid

/-- The last bytes of a character finish any sequence that has its first bits. -/
theorem sequences_lastBytes {more low high n : Nat} (least : low ≤ 0x80 + bitsAbove more n % 64)
    (most : 0x80 + bitsAbove more n % 64 ≤ high) (rest : Bytes) :
    sequences (.within more low high (bitsAbove (more + 1) n)) ((lastBytes (more + 1) n).map UInt8.ofNat ++ rest) =
      some (Char.ofNat n) :: sequences .between rest := by
  induction more generalizing low high with
  | zero =>
    rw [lastBytes, List.map_cons, List.cons_append, sequences_cons (by omega), step_within_zero least most,
      bitsAbove_add]
    rfl
  | succ more ih =>
    rw [lastBytes, List.map_cons, List.cons_append, sequences_cons (by omega), step_within_succ least most,
      bitsAbove_add, List.nil_append]
    exact ih (by omega) (by omega)

theorem sequences_encodePoint {n : Nat} (valid : n < 0xD800 ∨ 0xDFFF < n ∧ n < 0x110000) (rest : Bytes) :
    sequences .between ((encodePoint n).map UInt8.ofNat ++ rest) =
      some (Char.ofNat n) :: sequences .between rest := by
  by_cases one : n < 0x80
  · rw [encodePoint_of_one one, List.map_cons, List.cons_append, sequences_cons (by omega), step, first, if_pos one]
    rfl
  by_cases two : n < 0x800
  · have lead : 0xC0 + n / 64 - 0xC0 = bitsAbove 1 n := by simp only [bitsAbove]; omega
    rw [encodePoint_of_two (by omega) two, List.map_cons, List.cons_append, sequences_cons (by omega), step, first,
      if_neg (by omega), if_neg (by omega), if_pos (by omega), lead]
    exact sequences_lastBytes (by omega) (by omega) rest
  by_cases three : n < 0x10000
  · have lead : 0xE0 + n / 4096 - 0xE0 = bitsAbove 2 n := by simp only [bitsAbove]; omega
    rw [encodePoint_of_three (by omega) three, List.map_cons, List.cons_append, sequences_cons (by omega), step, first,
      if_neg (by omega), if_neg (by omega), if_neg (by omega), if_pos (by omega), lead]
    refine sequences_lastBytes ?_ ?_ rest <;> simp only [bitsAbove] <;> split <;> omega
  · have lead : 0xF0 + n / 262144 - 0xF0 = bitsAbove 3 n := by simp only [bitsAbove]; omega
    rw [encodePoint_of_four (by omega), List.map_cons, List.cons_append, sequences_cons (by omega), step, first,
      if_neg (by omega), if_neg (by omega), if_neg (by omega), if_neg (by omega), if_pos (by omega), lead]
    refine sequences_lastBytes ?_ ?_ rest <;> simp only [bitsAbove] <;> split <;> omega

theorem sequences_encode (t : Text) : sequences .between (encode t) = t.map some := by
  induction t with
  | nil => rfl
  | cons c t ih =>
    have cut : encode (c :: t) = (encodePoint c.toNat).map UInt8.ofNat ++ encode t := rfl
    rw [cut, sequences_encodePoint (toNat_bounds c), ih, Char.ofNat_toNat]
    rfl

theorem decodeLossy_encode (t : Text) : decodeLossy (encode t) = t := by
  simp [decodeLossy, sequences_encode, Function.comp_def]

/-! ### What can be read was written -/

theorem map_lastBytes_succ {k n : Nat} {b : UInt8} (bits : 0x80 + bitsAbove k n % 64 = b.toNat) :
    (lastBytes (k + 1) n).map UInt8.ofNat = b :: (lastBytes k n).map UInt8.ofNat := by
  rw [lastBytes, bits, List.map_cons, UInt8.ofNat_toNat]

theorem exists_cons_of_within {more low high value : Nat} {bytes : Bytes} {t : Text}
    (read : sequences (.within more low high value) bytes = t.map some) :
    ∃ b rest, bytes = b :: rest ∧ low ≤ b.toNat ∧ b.toNat ≤ high := by
  have clean : none ∉ sequences (.within more low high value) bytes := by simp [read]
  cases bytes with
  | nil => simp [sequences] at clean
  | cons b rest =>
    by_cases inside : low ≤ b.toNat ∧ b.toNat ≤ high
    · exact ⟨b, rest, rfl, inside⟩
    · simp [sequences, step, inside] at clean

/-- Within a sequence: if all that follows can be read, the bytes of the sequence are the last ones of a character
    whose first bits are those read so far. -/
theorem exists_of_within {more low high value : Nat} (least : 0x80 ≤ low) (most : high ≤ 0xBF) {bytes : Bytes}
    {t : Text} (read : sequences (.within more low high value) bytes = t.map some) :
    ∃ n rest r, t = Char.ofNat n :: r ∧ bytes = (lastBytes (more + 1) n).map UInt8.ofNat ++ rest ∧
      sequences .between rest = r.map some ∧ bitsAbove (more + 1) n = value ∧
      low ≤ 0x80 + bitsAbove more n % 64 ∧ 0x80 + bitsAbove more n % 64 ≤ high := by
  induction more generalizing low high value bytes with
  | zero =>
    obtain ⟨b, rest, rfl, above, below⟩ := exists_cons_of_within read
    rw [sequences, step_within_zero above below] at read
    cases t with
    | nil => simp at read
    | cons c r =>
      obtain ⟨made, after⟩ : Char.ofNat (64 * value + (b.toNat - 0x80)) = c ∧ sequences .between rest = r.map some := by
        simpa using read
      have bits : 0x80 + bitsAbove 0 (64 * value + (b.toNat - 0x80)) % 64 = b.toNat := by
        simp only [bitsAbove]
        omega
      refine ⟨_, rest, r, by rw [made], ?_, after, ?_, ?_⟩
      · rw [map_lastBytes_succ bits]
        rfl
      · simp only [bitsAbove]
        omega
      · rw [bits]
        exact ⟨above, below⟩
  | succ more ih =>
    obtain ⟨b, bytes, rfl, above, below⟩ := exists_cons_of_within read
    rw [sequences, step_within_succ above below, List.nil_append] at read
    obtain ⟨n, rest, r, made, split, after, top, _⟩ := ih (by omega) (by omega) read
    have bits : 0x80 + bitsAbove (more + 1) n % 64 = b.toNat := by omega
    refine ⟨n, rest, r, made, ?_, after, ?_, ?_⟩
    · rw [map_lastBytes_succ bits, split, List.cons_append]
    · rw [bitsAbove, top]
      omega
    · rw [bits]
      exact ⟨above, below⟩

theorem toNat_ofNat {n : Nat} (valid : n < 0xD800 ∨ 0xDFFF < n ∧ n < 0x110000) : (Char.ofNat n).toNat = n := by
  rw [Char.ofNat, dif_pos (show n.isValidChar from valid)]
  rfl

theorem encodeChar_ofNat {n : Nat} {b : UInt8} {rest : List Nat} (valid : n < 0xD800 ∨ 0xDFFF < n ∧ n < 0x110000)
    (bytes : encodePoint n = b.toNat :: rest) : encodeChar (Char.ofNat n) = b :: rest.map UInt8.ofNat := by
  rw [encodeChar, toNat_ofNat valid, bytes, List.map_cons, UInt8.ofNat_toNat]

/-- A first byte and the rest of its sequence, where every code point that they may stand for begins so. -/
theorem exists_of_lead {b : UInt8} {more low high value : Nat} (least : 0x80 ≤ low) (most : high ≤ 0xBF)
    {bytes : Bytes} {t : Text} (read : sequences (.within more low high value) bytes = t.map some)
    (lead : ∀ n, bitsAbove (more + 1) n = value → low ≤ 0x80 + bitsAbove more n % 64 → 0x80 + bitsAbove more n % 64 ≤ high →
      (n < 0xD800 ∨ 0xDFFF < n ∧ n < 0x110000) ∧ encodePoint n = b.toNat :: lastBytes (more + 1) n) :
    ∃ c rest r, t = c :: r ∧ b :: bytes = encodeChar c ++ rest ∧ sequences .between rest = r.map some := by
  obtain ⟨n, rest, r, made, split, after, top, above, below⟩ := exists_of_within least most read
  obtain ⟨valid, encoded⟩ := lead n top above below
  exact ⟨_, rest, r, made, by rw [encodeChar_ofNat valid encoded, split, List.cons_append], after⟩

theorem exists_of_between {b : UInt8} {bytes : Bytes} {t : Text} (read : sequences .between (b :: bytes) = t.map some) :
    ∃ c rest r, t = c :: r ∧ b :: bytes = encodeChar c ++ rest ∧ sequences .between rest = r.map some := by
  have clean : none ∉ sequences .between (b :: bytes) := by simp [read]
  have small : b.toNat < 256 := b.toNat_lt
  rw [sequences, step, first] at read clean
  split at read
  · next one =>
    cases t with
    | nil => simp at read
    | cons c r =>
      obtain ⟨rfl, after⟩ : Char.ofNat b.toNat = c ∧ sequences .between bytes = r.map some := by simpa using read
      refine ⟨_, bytes, r, rfl, ?_, after⟩
      rw [encodeChar_ofNat (by omega) (encodePoint_of_one one)]
      rfl
  split at read
  · next one noLead => simp [one, noLead] at clean
  split at read
  · refine exists_of_lead (by omega) (by omega) read ?_
    intro n top above below
    simp only [bitsAbove] at top
    refine ⟨by omega, ?_⟩
    rw [encodePoint_of_two (by omega) (by omega)]
    congr 1
    omega
  split at read
  · refine exists_of_lead (by split <;> omega) (by split <;> omega) read ?_
    intro n top above below
    simp only [bitsAbove] at top above below
    -- The bounds of the second byte keep out what is too small for three bytes, and the surrogates.
    have valid : 0x800 ≤ n ∧ n < 0xD800 ∨ 0xDFFF < n ∧ n < 0x10000 := by
      split at above <;> split at below <;> omega
    refine ⟨by omega, ?_⟩
    rw [encodePoint_of_three (by omega) (by omega)]
    congr 1
    omega
  split at read
  · refine exists_of_lead (by split <;> omega) (by split <;> omega) read ?_
    intro n top above below
    simp only [bitsAbove] at top above below
    have valid : 0x10000 ≤ n ∧ n < 0x110000 := by
      split at above <;> split at below <;> omega
    refine ⟨by omega, ?_⟩
    rw [encodePoint_of_four valid.1]
    congr 1
    omega
  · next one noLead two three four => simp [one, noLead, two, three, four] at clean

theorem sequences_eq_map_some_iff (bytes : Bytes) (t : Text) : sequences .between bytes = t.map some ↔ bytes = encode t := by
  constructor
  · intro read
    induction t generalizing bytes with
    | nil =>
      cases bytes with
      | nil => rfl
      | cons b bytes =>
        obtain ⟨_, _, _, made, _⟩ := exists_of_between read
        cases made
    | cons c t ih =>
      cases bytes with
      | nil => simp [sequences] at read
      | cons b bytes =>
        obtain ⟨_, rest, _, made, split, after⟩ := exists_of_between read
        cases made
        rw [split, ih rest after]
        rfl
  · rintro rfl
    exact sequences_encode t

theorem mapM_id_eq_some_iff (found : List (Option Char)) (t : Text) : found.mapM id = some t ↔ found = t.map some := by
  induction found generalizing t with
  | nil => cases t <;> simp
  | cons o found ih =>
    cases o with
    | none => cases t <;> simp
    | some c =>
      cases t with
      | nil => simp [Option.bind_eq_some_iff]
      | cons d t => simpa [Option.bind_eq_some_iff, ih] using and_comm

/-- Bytes are read as a text exactly where they are the bytes of that text. -/
theorem decode?_eq_some_iff (bytes : Bytes) (t : Text) : decode? bytes = some t ↔ bytes = encode t := by
  rw [decode?, mapM_id_eq_some_iff, sequences_eq_map_some_iff]

theorem decode?_encode (t : Text) : decode? (encode t) = some t := (decode?_eq_some_iff _ _).mpr rfl

end Offside.Utf8
