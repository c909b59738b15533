/-
# UTF-8, read without refusal

Bytes are read as UTF-8 and every byte list has a reading: each longest part that could begin
a character but does not complete it, and each byte that cannot begin one, becomes one U+FFFD.
A byte order mark is a character like any other.

The reader is a machine that takes one byte at a time and holds at most one character that has
begun.  `step` is one move of it, so that what it does to a list is an induction on the list.

Main statements:

* `decodeFrom_append`: reading a list in two parts is reading it whole, if the second part
  goes on where the first one stopped;
* `run_encodeChar`: from the start, the bytes of a character give that character and leave the
  machine at the start;
* `decode_bytes`: what was written is read back.
-/

namespace LoadingIndicator.Text.Utf8

/-! ## 1. Writing -/

/-- The bytes of a text. -/
def bytes (s : String) : List UInt8 := s.toList.flatMap String.utf8EncodeChar

/-! ## 2. A character that has begun -/

/-- A character whose lead byte has been read: how many bytes it still needs, the bounds of
the next one, and the bits read so far. -/
structure Begun where
  missing : Nat
  low : Nat
  high : Nat
  bits : Nat
  deriving DecidableEq

/-- What stands for bytes that are no character. -/
def replacement : Char := '\ufffd'

/-- What a byte does where no character has begun: the characters it gives and the character
it begins.  The second byte of a lead byte E0, ED, F0 or F4 has narrower bounds than others,
which keeps out overlong forms, surrogates and numbers beyond U+10FFFF. -/
def start (b : UInt8) : List Char × Option Begun :=
  let n := b.toNat
  if n ≤ 0x7f then ([Char.ofNat n], none)
  else if 0xc2 ≤ n ∧ n ≤ 0xdf then ([], some ⟨1, 0x80, 0xbf, n - 0xc0⟩)
  else if 0xe0 ≤ n ∧ n ≤ 0xef then
    ([], some ⟨2, if n = 0xe0 then 0xa0 else 0x80, if n = 0xed then 0x9f else 0xbf, n - 0xe0⟩)
  else if 0xf0 ≤ n ∧ n ≤ 0xf4 then
    ([], some ⟨3, if n = 0xf0 then 0x90 else 0x80, if n = 0xf4 then 0x8f else 0xbf, n - 0xf0⟩)
  else ([replacement], none)

/-! ## 3. The machine -/

/-- One byte: the characters that are now complete, and the character that has begun. -/
def step : Option Begun → UInt8 → List Char × Option Begun
  | none, b => start b
  | some c, b =>
    let n := b.toNat
    if c.low ≤ n ∧ n ≤ c.high then
      let bits := 64 * c.bits + (n - 0x80)
      if c.missing ≤ 1 then ([Char.ofNat bits], none)
      else ([], some ⟨c.missing - 1, 0x80, 0xbf, bits⟩)
    else (replacement :: (start b).1, (start b).2)

/-- What is left at the end: a character that has begun and is not complete. -/
def finish : Option Begun → List Char
  | none => []
  | some _ => [replacement]

/-- The characters of a byte list, after a character that has begun. -/
def decodeFrom (state : Option Begun) : List UInt8 → List Char
  | [] => finish state
  | b :: bs => (step state b).1 ++ decodeFrom (step state b).2 bs

/-- The text that a byte list shows. -/
def decode (bs : List UInt8) : String := String.ofList (decodeFrom none bs)

/-! ## 4. Two parts -/

/-- The characters complete after a byte list, and the character then begun. -/
def run (state : Option Begun) : List UInt8 → List Char × Option Begun
  | [] => ([], state)
  | b :: bs =>
    ((step state b).1 ++ (run (step state b).2 bs).1, (run (step state b).2 bs).2)

/-- **Reading in two parts is reading whole**: the second part goes on from the state in which
the first one leaves the machine. -/
theorem decodeFrom_append (state : Option Begun) (bs cs : List UInt8) :
    decodeFrom state (bs ++ cs) = (run state bs).1 ++ decodeFrom (run state bs).2 cs := by
  induction bs generalizing state with
  | nil => rfl
  | cons b bs ih => simp only [List.cons_append, decodeFrom, run, ih, List.append_assoc]

/-- Reading a list is running the machine and closing it. -/
theorem decodeFrom_eq_run (state : Option Begun) (bs : List UInt8) :
    decodeFrom state bs = (run state bs).1 ++ finish (run state bs).2 := by
  simpa [decodeFrom] using decodeFrom_append state bs []

/-! ## 5. What was written is read back -/

theorem toNat_ofNat_of_lt {n : Nat} (h : n < 256) : (UInt8.ofNat n).toNat = n := by
  rw [UInt8.toNat_ofNat']
  exact Nat.mod_eq_of_lt h

theorem start_one {n : Nat} (h : n ≤ 0x7f) : start (UInt8.ofNat n) = ([Char.ofNat n], none) := by
  have hbyte : n < 256 := by omega
  simp only [start, toNat_ofNat_of_lt hbyte]
  rw [if_pos h]

theorem start_of_two {b : UInt8} (h : 0xc2 ≤ b.toNat ∧ b.toNat ≤ 0xdf) :
    start b = ([], some ⟨1, 0x80, 0xbf, b.toNat - 0xc0⟩) := by
  simp only [start]
  rw [if_neg (by omega), if_pos h]

theorem start_of_three {b : UInt8} (h : 0xe0 ≤ b.toNat ∧ b.toNat ≤ 0xef) :
    start b = ([], some ⟨2, if b.toNat = 0xe0 then 0xa0 else 0x80,
      if b.toNat = 0xed then 0x9f else 0xbf, b.toNat - 0xe0⟩) := by
  simp only [start]
  rw [if_neg (by omega), if_neg (by omega), if_pos h]

theorem start_of_four {b : UInt8} (h : 0xf0 ≤ b.toNat ∧ b.toNat ≤ 0xf4) :
    start b = ([], some ⟨3, if b.toNat = 0xf0 then 0x90 else 0x80,
      if b.toNat = 0xf4 then 0x8f else 0xbf, b.toNat - 0xf0⟩) := by
  simp only [start]
  rw [if_neg (by omega), if_neg (by omega), if_neg (by omega), if_pos h]

theorem start_two {k : Nat} (hlow : 2 ≤ k) (hhigh : k < 0x20) :
    start (UInt8.ofNat (k + 192)) = ([], some ⟨1, 0x80, 0xbf, k⟩) := by
  have hbyte : (UInt8.ofNat (k + 192)).toNat = k + 192 := toNat_ofNat_of_lt (by omega)
  have hbits : k + 192 - 0xc0 = k := by omega
  rw [start_of_two (by omega), hbyte, hbits]

theorem start_three {k : Nat} (h : k < 0x10) :
    start (UInt8.ofNat (k + 224)) = ([], some ⟨2, if k = 0 then 0xa0 else 0x80,
      if k = 13 then 0x9f else 0xbf, k⟩) := by
  have hbyte : (UInt8.ofNat (k + 224)).toNat = k + 224 := toNat_ofNat_of_lt (by omega)
  have hfirst : k + 224 = 0xe0 ↔ k = 0 := by omega
  have hhalves : k + 224 = 0xed ↔ k = 13 := by omega
  have hbits : k + 224 - 0xe0 = k := by omega
  rw [start_of_three (by omega), hbyte]
  simp only [hfirst, hhalves, hbits]

theorem start_four {k : Nat} (h : k ≤ 4) :
    start (UInt8.ofNat (k + 240)) = ([], some ⟨3, if k = 0 then 0x90 else 0x80,
      if k = 4 then 0x8f else 0xbf, k⟩) := by
  have hbyte : (UInt8.ofNat (k + 240)).toNat = k + 240 := toNat_ofNat_of_lt (by omega)
  have hfirst : k + 240 = 0xf0 ↔ k = 0 := by omega
  have hend : k + 240 = 0xf4 ↔ k = 4 := by omega
  have hbits : k + 240 - 0xf0 = k := by omega
  rw [start_of_four (by omega), hbyte]
  simp only [hfirst, hend, hbits]

theorem bits_behind (n : Nat) :
    n % 64 + 128 < 256 ∧ (0x80 ≤ n % 64 + 128 ∧ n % 64 + 128 ≤ 0xbf) ∧
      64 * (n / 64) + (n % 64 + 128 - 0x80) = n := by omega

/-- The last byte of a character completes it. -/
theorem step_last (n : Nat) :
    step (some ⟨1, 0x80, 0xbf, n / 64⟩) (UInt8.ofNat (n % 64 + 128)) = ([Char.ofNat n], none) := by
  obtain ⟨hbyte, hrange, hbits⟩ := bits_behind n
  simp only [step, toNat_ofNat_of_lt hbyte]
  rw [if_pos hrange, if_pos (Nat.le_refl 1), hbits]

/-- A byte before the last one adds its bits. -/
theorem step_more {k low high n : Nat} (hlow : low ≤ n % 64 + 128) (hhigh : n % 64 + 128 ≤ high) :
    step (some ⟨k + 2, low, high, n / 64⟩) (UInt8.ofNat (n % 64 + 128)) =
      ([], some ⟨k + 1, 0x80, 0xbf, n⟩) := by
  obtain ⟨hbyte, -, hbits⟩ := bits_behind n
  simp only [step, toNat_ofNat_of_lt hbyte]
  rw [if_pos ⟨hlow, hhigh⟩, if_neg (by omega), hbits]
  rfl

/-- **The bytes of a character give that character** and leave the machine at the start. -/
theorem run_encodeChar (c : Char) : run none (String.utf8EncodeChar c) = ([c], none) := by
  have hc : c.toNat < 0xd800 ∨ (0xdfff < c.toNat ∧ c.toNat < 0x110000) := c.valid
  have hback : Char.ofNat c.toNat = c := Char.ofNat_toNat c
  have hval : c.val.toNat = c.toNat := rfl
  generalize hn : c.toNat = n at *
  unfold String.utf8EncodeChar
  simp only [hval]
  -- one case for each number of bytes; the bits of the lead are those of `n` left by the others
  split
  · rename_i h1
    simp only [run, step, start_one h1, List.append_nil, hback]
  · split
    · rename_i h1 h2
      have hlead : n / 64 % 32 = n / 64 := by omega
      have hstart := start_two (k := n / 64) (by omega) (by omega)
      simp only [hlead, run, step.eq_1, hstart, step_last, List.nil_append, List.append_nil, hback]
    · split
      · rename_i h1 h2 h3
        have hlead : n / 4096 % 16 = n / 64 / 64 := by omega
        have hstart := start_three (k := n / 64 / 64) (by omega)
        have hlow : (if n / 64 / 64 = 0 then 0xa0 else 0x80) ≤ n / 64 % 64 + 128 := by
          split <;> omega
        have hhigh : n / 64 % 64 + 128 ≤ if n / 64 / 64 = 13 then 0x9f else 0xbf := by
          split <;> omega
        simp only [hlead, run, step.eq_1, hstart, step_more (k := 0) hlow hhigh,
          Nat.zero_add, step_last, List.nil_append, List.append_nil, hback]
      · rename_i h1 h2 h3
        have hlead : n / 262144 % 8 = n / 64 / 64 / 64 := by omega
        have hsecond : n / 4096 % 64 = n / 64 / 64 % 64 := by omega
        have hstart := start_four (k := n / 64 / 64 / 64) (by omega)
        have hlow : (if n / 64 / 64 / 64 = 0 then 0x90 else 0x80) ≤ n / 64 / 64 % 64 + 128 := by
          split <;> omega
        have hhigh : n / 64 / 64 % 64 + 128 ≤ if n / 64 / 64 / 64 = 4 then 0x8f else 0xbf := by
          split <;> omega
        obtain ⟨-, ⟨hlow', hhigh'⟩, -⟩ := bits_behind (n / 64)
        simp only [hlead, hsecond, run, step.eq_1, hstart, step_more (k := 1) hlow hhigh,
          step_more (k := 0) hlow' hhigh', Nat.zero_add, step_last, List.nil_append,
          List.append_nil, hback]

/-- The bytes of a text at the front are read as the text. -/
theorem decodeFrom_encode_append (cs : List Char) (bs : List UInt8) :
    decodeFrom none (cs.flatMap String.utf8EncodeChar ++ bs) = cs ++ decodeFrom none bs := by
  induction cs with
  | nil => rfl
  | cons c cs ih =>
    rw [List.flatMap_cons, List.append_assoc, decodeFrom_append, run_encodeChar, ih]
    rfl

/-- **What was written is read back.** -/
theorem decode_bytes (s : String) : decode (bytes s) = s := by
  have h := decodeFrom_encode_append s.toList []
  rw [List.append_nil] at h
  rw [decode, bytes, h]
  simp [decodeFrom, finish]

theorem bytes_inj {s t : String} : bytes s = bytes t ↔ s = t := by
  constructor
  · intro h
    rw [← decode_bytes s, h, decode_bytes]
  · rintro rfl
    rfl

end LoadingIndicator.Text.Utf8
