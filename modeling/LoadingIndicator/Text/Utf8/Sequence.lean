/-
# Well-formed UTF-8, and what is not

Which bytes are UTF-8 is a table: a row for each kind of lead byte, with the bounds of the bytes
from the lead on.  The table mentions neither the writer nor the reader.  Its rows are the bytes
of the characters, and nothing else; and the reader, when a character has begun, stands within a
row, with the rest of it still to come.

From the table follows what the reader makes of bytes that are not UTF-8.  A part that begins a
character, and that the next byte does not carry on, is one U+FFFD; so is a byte that begins none.

Main statements:

* `isSequence_iff`: the rows of the table are the bytes of the characters;
* `bytes_decode_iff`: exactly well-formed bytes are those of the text they are read as;
* `decodeFrom_broken`: a part that breaks off is one U+FFFD, and the byte behind it is read afresh;
* `decode_append_bytes`: the bytes of a text are read as the text wherever they stand.
-/
import Mathlib.Data.List.Forall2
import LoadingIndicator.Text.Ranges
import LoadingIndicator.Text.Utf8

namespace LoadingIndicator.Text.Utf8

/-! ## 1. The table -/

/-- The bounds of a byte behind the lead, where the lead does not narrow them. -/
def behind : Nat × Nat := (0x80, 0xbf)

/-- The bounds of the bytes of a character, for each kind of lead byte. -/
def rows : List (List (Nat × Nat)) :=
  [[(0x00, 0x7f)],
    [(0xc2, 0xdf), behind],
    [(0xe0, 0xe0), (0xa0, 0xbf), behind],
    [(0xe1, 0xec), behind, behind],
    [(0xed, 0xed), (0x80, 0x9f), behind],
    [(0xee, 0xef), behind, behind],
    [(0xf0, 0xf0), (0x90, 0xbf), behind, behind],
    [(0xf1, 0xf3), behind, behind, behind],
    [(0xf4, 0xf4), (0x80, 0x8f), behind, behind]]

/-- Whether a byte keeps to its bounds. -/
def Within (bounds : Nat × Nat) (b : UInt8) : Prop := bounds.1 ≤ b.toNat ∧ b.toNat ≤ bounds.2

instance (bounds : Nat × Nat) (b : UInt8) : Decidable (Within bounds b) :=
  inferInstanceAs (Decidable (_ ∧ _))

/-- Whether bytes are those of one character. -/
def IsSequence (bs : List UInt8) : Prop := ∃ row ∈ rows, List.Forall₂ Within row bs

/-- Whether bytes are UTF-8: those of any number of characters, one after another. -/
inductive WellFormed : List UInt8 → Prop
  | nil : WellFormed []
  | cons {bs rest : List UInt8} (head : IsSequence bs) (tail : WellFormed rest) :
    WellFormed (bs ++ rest)

theorem not_isSequence_nil : ¬ IsSequence [] := by
  rintro ⟨row, hrow, hbytes⟩
  rw [List.forall₂_nil_right_iff.mp hbytes] at hrow
  exact absurd hrow (by decide)

/-! ## 2. The state of the reader is the rest of a row -/

/-- The bounds of the bytes that a character which has begun still needs. -/
def Begun.rest (k : Begun) : List (Nat × Nat) :=
  (k.low, k.high) :: List.replicate (k.missing - 1) behind

/-- What a lead byte begins: a character of two bytes, three or four.  The lead decides the bounds
of the next one. -/
inductive Leads (b : UInt8) : Begun → Prop
  | two (range : 0xc2 ≤ b.toNat ∧ b.toNat ≤ 0xdf) : Leads b ⟨1, 0x80, 0xbf, b.toNat - 0xc0⟩
  | three (range : 0xe0 ≤ b.toNat ∧ b.toNat ≤ 0xef) :
    Leads b ⟨2, if b.toNat = 0xe0 then 0xa0 else 0x80, if b.toNat = 0xed then 0x9f else 0xbf,
      b.toNat - 0xe0⟩
  | four (range : 0xf0 ≤ b.toNat ∧ b.toNat ≤ 0xf4) :
    Leads b ⟨3, if b.toNat = 0xf0 then 0x90 else 0x80, if b.toNat = 0xf4 then 0x8f else 0xbf,
      b.toNat - 0xf0⟩

theorem Leads.le_toNat {b : UInt8} {k : Begun} (h : Leads b k) : 0xc2 ≤ b.toNat := by
  cases h with
  | two range => omega
  | three range => omega
  | four range => omega

/-- **What a byte is where no character has begun**: a character, or no part of any, or the lead of
one. -/
theorem start_cases (b : UInt8) :
    (b.toNat ≤ 0x7f ∧ start b = ([Char.ofNat b.toNat], none)) ∨
      (0x7f < b.toNat ∧ start b = ([replacement], none)) ∨
        ∃ k, Leads b k ∧ start b = ([], some k) := by
  by_cases hone : b.toNat ≤ 0x7f
  · refine Or.inl ⟨hone, ?_⟩
    simp only [start]
    rw [if_pos hone]
  · by_cases htwo : 0xc2 ≤ b.toNat ∧ b.toNat ≤ 0xdf
    · exact Or.inr (Or.inr ⟨_, .two htwo, start_of_two htwo⟩)
    · by_cases hthree : 0xe0 ≤ b.toNat ∧ b.toNat ≤ 0xef
      · exact Or.inr (Or.inr ⟨_, .three hthree, start_of_three hthree⟩)
      · by_cases hfour : 0xf0 ≤ b.toNat ∧ b.toNat ≤ 0xf4
        · exact Or.inr (Or.inr ⟨_, .four hfour, start_of_four hfour⟩)
        · refine Or.inr (Or.inl ⟨by omega, ?_⟩)
          simp only [start]
          rw [if_neg hone, if_neg htwo, if_neg hthree, if_neg hfour]

theorem leads_of_start {b : UInt8} {k : Begun} (h : start b = ([], some k)) : Leads b k := by
  rcases start_cases b with ⟨-, hstart⟩ | ⟨-, hstart⟩ | ⟨k', hleads, hstart⟩
  · rw [h] at hstart
    cases hstart
  · rw [h] at hstart
    cases hstart
  · rw [h] at hstart
    cases hstart
    exact hleads

/-- The lead byte of a row begins a character that needs the rest of the row, unless the row has
no rest. -/
theorem start_of_row {r : Nat × Nat} {rest : List (Nat × Nat)} (h : r :: rest ∈ rows) {b : UInt8}
    (hb : Within r b) : (b.toNat ≤ 0x7f ∧ rest = []) ∨
      ∃ k, start b = ([], some k) ∧ k.rest = rest := by
  simp only [rows, List.mem_cons, List.cons.injEq, List.not_mem_nil, or_false] at h
  -- one case for each row; in those of three and four bytes the lead decides the bounds behind it
  rcases h with ⟨rfl, rfl⟩ | ⟨rfl, rfl⟩ | ⟨rfl, rfl⟩ | ⟨rfl, rfl⟩ | ⟨rfl, rfl⟩ | ⟨rfl, rfl⟩ |
    ⟨rfl, rfl⟩ | ⟨rfl, rfl⟩ | ⟨rfl, rfl⟩ <;> obtain ⟨hlow, hhigh⟩ : _ ≤ b.toNat ∧ b.toNat ≤ _ := hb
  · exact Or.inl ⟨hhigh, rfl⟩
  · exact Or.inr ⟨_, start_of_two ⟨hlow, hhigh⟩, rfl⟩
  · refine Or.inr ⟨_, start_of_three (by omega), ?_⟩
    rw [if_pos (by omega), if_neg (by omega)]
    rfl
  · refine Or.inr ⟨_, start_of_three (by omega), ?_⟩
    rw [if_neg (by omega), if_neg (by omega)]
    rfl
  · refine Or.inr ⟨_, start_of_three (by omega), ?_⟩
    rw [if_neg (by omega), if_pos (by omega)]
    rfl
  · refine Or.inr ⟨_, start_of_three (by omega), ?_⟩
    rw [if_neg (by omega), if_neg (by omega)]
    rfl
  · refine Or.inr ⟨_, start_of_four (by omega), ?_⟩
    rw [if_pos (by omega), if_neg (by omega)]
    rfl
  · refine Or.inr ⟨_, start_of_four (by omega), ?_⟩
    rw [if_neg (by omega), if_neg (by omega)]
    rfl
  · refine Or.inr ⟨_, start_of_four (by omega), ?_⟩
    rw [if_neg (by omega), if_pos (by omega)]
    rfl

/-- A character that has begun is in a row whose rest it needs. -/
theorem Leads.exists_row {b : UInt8} {k : Begun} (h : Leads b k) :
    ∃ r, Within r b ∧ r :: k.rest ∈ rows := by
  cases h with
  | two htwo =>
    have hrow : [(0xc2, 0xdf), behind] ∈ rows := by decide
    exact ⟨(0xc2, 0xdf), htwo, hrow⟩
  | three hthree =>
    by_cases hfirst : b.toNat = 0xe0
    · rw [if_pos hfirst, if_neg (by omega)]
      have hrow : [(0xe0, 0xe0), (0xa0, 0xbf), behind] ∈ rows := by decide
      exact ⟨_, ⟨by omega, by omega⟩, hrow⟩
    · by_cases hhalves : b.toNat = 0xed
      · rw [if_neg hfirst, if_pos hhalves]
        have hrow : [(0xed, 0xed), (0x80, 0x9f), behind] ∈ rows := by decide
        exact ⟨_, ⟨by omega, by omega⟩, hrow⟩
      · rw [if_neg hfirst, if_neg hhalves]
        by_cases hbefore : b.toNat < 0xed
        · have hrow : [(0xe1, 0xec), behind, behind] ∈ rows := by decide
          exact ⟨_, ⟨by omega, by omega⟩, hrow⟩
        · have hrow : [(0xee, 0xef), behind, behind] ∈ rows := by decide
          exact ⟨_, ⟨by omega, by omega⟩, hrow⟩
  | four hfour =>
    by_cases hfirst : b.toNat = 0xf0
    · rw [if_pos hfirst, if_neg (by omega)]
      have hrow : [(0xf0, 0xf0), (0x90, 0xbf), behind, behind] ∈ rows := by decide
      exact ⟨_, ⟨by omega, by omega⟩, hrow⟩
    · by_cases hend : b.toNat = 0xf4
      · rw [if_neg hfirst, if_pos hend]
        have hrow : [(0xf4, 0xf4), (0x80, 0x8f), behind, behind] ∈ rows := by decide
        exact ⟨_, ⟨by omega, by omega⟩, hrow⟩
      · rw [if_neg hfirst, if_neg hend]
        have hrow : [(0xf1, 0xf3), behind, behind, behind] ∈ rows := by decide
        exact ⟨_, ⟨by omega, by omega⟩, hrow⟩

/-- **The bytes of a character are a lead byte and what the reader then still needs.** -/
theorem isSequence_cons_iff {b : UInt8} {bs : List UInt8} :
    IsSequence (b :: bs) ↔ (b.toNat ≤ 0x7f ∧ bs = []) ∨
      ∃ k, start b = ([], some k) ∧ List.Forall₂ Within k.rest bs := by
  constructor
  · rintro ⟨row, hrow, hbytes⟩
    cases hbytes with
    | cons hlead hrest =>
      rcases start_of_row hrow hlead with ⟨hone, rfl⟩ | ⟨k, hstart, rfl⟩
      · exact Or.inl ⟨hone, List.forall₂_nil_left_iff.mp hrest⟩
      · exact Or.inr ⟨k, hstart, hrest⟩
  · rintro (⟨hone, rfl⟩ | ⟨k, hstart, hrest⟩)
    · exact ⟨[(0x00, 0x7f)], by decide, .cons ⟨Nat.zero_le _, hone⟩ .nil⟩
    · obtain ⟨r, hlead, hrow⟩ := (leads_of_start hstart).exists_row
      exact ⟨r :: k.rest, hrow, .cons hlead hrest⟩

theorem isSequence_lead_iff {b : UInt8} {k : Begun} (h : start b = ([], some k))
    {bs : List UInt8} : IsSequence (b :: bs) ↔ List.Forall₂ Within k.rest bs := by
  rw [isSequence_cons_iff]
  constructor
  · rintro (⟨hone, -⟩ | ⟨k', hk', hrest⟩)
    · have hlead := (leads_of_start h).le_toNat
      omega
    · rw [h] at hk'
      cases hk'
      exact hrest
  · intro hrest
    exact Or.inr ⟨k, h, hrest⟩

/-! ## 3. The table and the writer -/

theorem within_of_bits {low high n : Nat} (hlow : low ≤ n % 64 + 128)
    (hhigh : n % 64 + 128 ≤ high) :
    Within (low, high) (UInt8.ofNat (n % 64 + 128)) := by
  rw [Within, toNat_ofNat_of_lt (bits_behind n).1]
  exact ⟨hlow, hhigh⟩

theorem within_behind (n : Nat) : Within behind (UInt8.ofNat (n % 64 + 128)) :=
  within_of_bits (bits_behind n).2.1.1 (bits_behind n).2.1.2

/-- The bytes of a character are a row of the table. -/
theorem isSequence_encodeChar (c : Char) : IsSequence (String.utf8EncodeChar c) := by
  have hc : c.toNat < 0xd800 ∨ (0xdfff < c.toNat ∧ c.toNat < 0x110000) := c.valid
  have hval : c.val.toNat = c.toNat := rfl
  unfold String.utf8EncodeChar
  simp only [hval]
  generalize c.toNat = n at *
  -- one case for each number of bytes; the second of three or four has bounds that the lead tells
  split
  · rename_i h1
    rw [isSequence_cons_iff, toNat_ofNat_of_lt (by omega)]
    exact Or.inl ⟨h1, rfl⟩
  · split
    · rename_i h1 h2
      have hlead : n / 64 % 32 = n / 64 := by omega
      rw [hlead, isSequence_lead_iff (start_two (by omega) (by omega))]
      exact .cons (within_behind n) .nil
    · split
      · rename_i h1 h2 h3
        have hlead : n / 4096 % 16 = n / 4096 := by omega
        have hsecond : Within (if n / 4096 = 0 then 0xa0 else 0x80,
            if n / 4096 = 13 then 0x9f else 0xbf) (UInt8.ofNat (n / 64 % 64 + 128)) :=
          within_of_bits (by split <;> omega) (by split <;> omega)
        rw [hlead, isSequence_lead_iff (start_three (by omega))]
        exact .cons hsecond (.cons (within_behind n) .nil)
      · rename_i h1 h2 h3
        have hlead : n / 262144 % 8 = n / 262144 := by omega
        have hsecond : Within (if n / 262144 = 0 then 0x90 else 0x80,
            if n / 262144 = 4 then 0x8f else 0xbf) (UInt8.ofNat (n / 4096 % 64 + 128)) :=
          within_of_bits (by split <;> omega) (by split <;> omega)
        rw [hlead, isSequence_lead_iff (start_four (by omega))]
        exact .cons hsecond (.cons (within_behind (n / 64)) (.cons (within_behind n) .nil))

theorem ofNat_eq {n : Nat} {b : UInt8} (h : n = b.toNat) : UInt8.ofNat n = b := by
  rw [h, UInt8.ofNat_toNat]

theorem encodeChar_two {a b : UInt8} (ha : 0xc2 ≤ a.toNat ∧ a.toNat ≤ 0xdf) (hb : Within behind b) :
    ∃ c, String.utf8EncodeChar c = [a, b] := by
  obtain ⟨hlow, hhigh⟩ : 0x80 ≤ b.toNat ∧ b.toNat ≤ 0xbf := hb
  obtain ⟨n, hn⟩ : ∃ n, n = 64 * (a.toNat - 0xc0) + (b.toNat - 0x80) := ⟨_, rfl⟩
  have hval : (Char.ofNat n).val.toNat = n := toNat_charOfNat (Or.inl (by omega))
  refine ⟨Char.ofNat n, ?_⟩
  unfold String.utf8EncodeChar
  simp only [hval]
  rw [if_neg (by omega), if_pos (by omega), ofNat_eq (b := a) (by omega),
    ofNat_eq (b := b) (by omega)]

theorem encodeChar_three {a b d : UInt8} (ha : 0xe0 ≤ a.toNat ∧ a.toNat ≤ 0xef)
    (hb : Within (if a.toNat = 0xe0 then 0xa0 else 0x80, if a.toNat = 0xed then 0x9f else 0xbf) b)
    (hd : Within behind d) : ∃ c, String.utf8EncodeChar c = [a, b, d] := by
  obtain ⟨hlow, hhigh⟩ := hb
  obtain ⟨hlow', hhigh'⟩ : 0x80 ≤ d.toNat ∧ d.toNat ≤ 0xbf := hd
  simp only at hlow hhigh
  obtain ⟨n, hn⟩ : ∃ n, n = 64 * (64 * (a.toNat - 0xe0) + (b.toNat - 0x80)) + (d.toNat - 0x80) :=
    ⟨_, rfl⟩
  have hrange : 0x7ff < n ∧ n ≤ 0xffff ∧ (n < 0xd800 ∨ 0xdfff < n) ∧ 0x80 ≤ b.toNat ∧
      b.toNat ≤ 0xbf := by
    split at hlow <;> split at hhigh <;> omega
  have hval : (Char.ofNat n).val.toNat = n := toNat_charOfNat (by unfold Nat.isValidChar; omega)
  refine ⟨Char.ofNat n, ?_⟩
  unfold String.utf8EncodeChar
  simp only [hval]
  rw [if_neg (by omega), if_neg (by omega), if_pos (by omega), ofNat_eq (b := a) (by omega),
    ofNat_eq (b := b) (by omega), ofNat_eq (b := d) (by omega)]

theorem encodeChar_four {a b d e : UInt8} (ha : 0xf0 ≤ a.toNat ∧ a.toNat ≤ 0xf4)
    (hb : Within (if a.toNat = 0xf0 then 0x90 else 0x80, if a.toNat = 0xf4 then 0x8f else 0xbf) b)
    (hd : Within behind d) (he : Within behind e) :
    ∃ c, String.utf8EncodeChar c = [a, b, d, e] := by
  obtain ⟨hlow, hhigh⟩ := hb
  obtain ⟨hlow', hhigh'⟩ : 0x80 ≤ d.toNat ∧ d.toNat ≤ 0xbf := hd
  obtain ⟨hlow'', hhigh''⟩ : 0x80 ≤ e.toNat ∧ e.toNat ≤ 0xbf := he
  simp only at hlow hhigh
  obtain ⟨n, hn⟩ : ∃ n, n = 64 * (64 * (64 * (a.toNat - 0xf0) + (b.toNat - 0x80)) +
    (d.toNat - 0x80)) + (e.toNat - 0x80) := ⟨_, rfl⟩
  have hrange : 0xffff < n ∧ n ≤ 0x10ffff ∧ 0x80 ≤ b.toNat ∧ b.toNat ≤ 0xbf := by
    split at hlow <;> split at hhigh <;> omega
  have hval : (Char.ofNat n).val.toNat = n := toNat_charOfNat (by unfold Nat.isValidChar; omega)
  refine ⟨Char.ofNat n, ?_⟩
  unfold String.utf8EncodeChar
  simp only [hval]
  rw [if_neg (by omega), if_neg (by omega), if_neg (by omega), ofNat_eq (b := a) (by omega),
    ofNat_eq (b := b) (by omega), ofNat_eq (b := d) (by omega), ofNat_eq (b := e) (by omega)]

/-- Every row gives the bytes of characters. -/
theorem exists_encodeChar {bs : List UInt8} (h : IsSequence bs) :
    ∃ c, String.utf8EncodeChar c = bs := by
  cases bs with
  | nil => exact absurd h not_isSequence_nil
  | cons a bs =>
    rcases isSequence_cons_iff.mp h with ⟨hone, rfl⟩ | ⟨k, hstart, hrest⟩
    · have hval : (Char.ofNat a.toNat).val.toNat = a.toNat :=
        toNat_charOfNat (Or.inl (by omega))
      refine ⟨Char.ofNat a.toNat, ?_⟩
      unfold String.utf8EncodeChar
      simp only [hval]
      rw [if_pos hone, UInt8.ofNat_toNat]
    · cases leads_of_start hstart with
      | two htwo =>
        obtain ⟨b, bs, hb, hnil, rfl⟩ := List.forall₂_cons_left_iff.mp hrest
        rw [List.forall₂_nil_left_iff.mp hnil]
        exact encodeChar_two htwo hb
      | three hthree =>
        obtain ⟨b, cs, hb, hsecond, rfl⟩ := List.forall₂_cons_left_iff.mp hrest
        obtain ⟨d, ds, hd, hnil, rfl⟩ := List.forall₂_cons_left_iff.mp hsecond
        rw [List.forall₂_nil_left_iff.mp hnil]
        exact encodeChar_three hthree hb hd
      | four hfour =>
        obtain ⟨b, cs, hb, hsecond, rfl⟩ := List.forall₂_cons_left_iff.mp hrest
        obtain ⟨d, ds, hd, hthird, rfl⟩ := List.forall₂_cons_left_iff.mp hsecond
        obtain ⟨e, es, he, hnil, rfl⟩ := List.forall₂_cons_left_iff.mp hthird
        rw [List.forall₂_nil_left_iff.mp hnil]
        exact encodeChar_four hfour hb hd he

/-- **The rows of the table are the bytes of the characters.** -/
theorem isSequence_iff {bs : List UInt8} :
    IsSequence bs ↔ ∃ c, String.utf8EncodeChar c = bs := by
  constructor
  · exact exists_encodeChar
  · rintro ⟨c, rfl⟩
    exact isSequence_encodeChar c

/-- Well-formed bytes are those of a text. -/
theorem wellFormed_iff {bs : List UInt8} : WellFormed bs ↔ ∃ s, bytes s = bs := by
  constructor
  · intro h
    induction h with
    | nil => exact ⟨"", rfl⟩
    | @cons bs rest head _ ih =>
      obtain ⟨c, rfl⟩ := exists_encodeChar head
      obtain ⟨s, rfl⟩ := ih
      refine ⟨String.ofList (c :: s.toList), ?_⟩
      rw [bytes, String.toList_ofList, List.flatMap_cons, bytes]
  · rintro ⟨s, rfl⟩
    rw [bytes]
    induction s.toList with
    | nil => exact .nil
    | cons c cs ih =>
      rw [List.flatMap_cons]
      exact .cons (isSequence_encodeChar c) ih

/-- **Exactly well-formed bytes are those of the text they are read as.** -/
theorem bytes_decode_iff {bs : List UInt8} : bytes (decode bs) = bs ↔ WellFormed bs := by
  rw [wellFormed_iff]
  constructor
  · intro h
    exact ⟨decode bs, h⟩
  · rintro ⟨s, rfl⟩
    rw [decode_bytes]

/-! ## 4. Parts that break off -/

/-- Whether bytes begin a character, or are one. -/
def Begins (bs : List UInt8) : Prop := ∃ rest, IsSequence (bs ++ rest)

/-- Whether a part of bytes is no character and cannot become one: it begins one which the byte
behind it does not carry on, or is a single byte that begins none. -/
structure Broken (part rest : List UInt8) : Prop where
  nonempty : part ≠ []
  incomplete : ¬ IsSequence part
  single : ¬ Begins part → part.length = 1
  stopped : ∀ b ∈ rest.head?, ¬ Begins (part ++ [b])

theorem begins_cons {b : UInt8} {bs : List UInt8} (h : Begins (b :: bs)) :
    (b.toNat ≤ 0x7f ∧ bs = []) ∨ ∃ k, start b = ([], some k) := by
  obtain ⟨rest, hrest⟩ := h
  rcases isSequence_cons_iff.mp hrest with ⟨hone, hnil⟩ | ⟨k, hstart, -⟩
  · exact Or.inl ⟨hone, (List.append_eq_nil_iff.mp hnil).1⟩
  · exact Or.inr ⟨k, hstart⟩

theorem forall₂_replicate_behind (n : Nat) :
    List.Forall₂ Within (List.replicate n behind) (List.replicate n 0x80) := by
  induction n with
  | zero => exact .nil
  | succ n ih => exact .cons (by decide) ih

theorem begins_of_start {b : UInt8} {k : Begun} (h : start b = ([], some k)) : Begins [b] := by
  have hrows : ∀ row ∈ rows, List.Forall₂ Within row (row.map fun r => UInt8.ofNat r.1) := by
    decide
  obtain ⟨r, -, hrow⟩ := (leads_of_start h).exists_row
  exact ⟨_, (isSequence_lead_iff h).mpr (List.forall₂_cons.mp (hrows _ hrow)).2⟩

/-- A byte that a character needs, and not as its last one, is taken, and the character then needs
one less. -/
theorem step_of_within {k : Begun} {b : UInt8} (hb : Within (k.low, k.high) b)
    (hmissing : 1 < k.missing) : ∃ next, step (some k) b = ([], some next) ∧
      next.rest = List.replicate (k.missing - 1) behind := by
  refine ⟨⟨k.missing - 1, 0x80, 0xbf, 64 * k.bits + (b.toNat - 0x80)⟩, ?_, ?_⟩
  · have hrange : k.low ≤ b.toNat ∧ b.toNat ≤ k.high := hb
    simp only [step]
    rw [if_pos hrange, if_neg (by omega)]
  · have hsplit : k.missing - 1 = k.missing - 1 - 1 + 1 := by omega
    rw [hsplit, List.replicate_succ]
    rfl

/-- A byte that a character which has begun does not need is read afresh. -/
theorem decodeFrom_of_not_within {k : Begun} {b : UInt8} (h : ¬ Within (k.low, k.high) b)
    (bs : List UInt8) :
    decodeFrom (some k) (b :: bs) = replacement :: decodeFrom none (b :: bs) := by
  have hstep : step (some k) b = (replacement :: (start b).1, (start b).2) := if_neg h
  rw [decodeFrom, hstep, decodeFrom]
  rfl

/-- A character that has begun and breaks off is one U+FFFD, however many of its bytes were read,
and what stands behind them is read afresh. -/
theorem decodeFrom_begun {k : Begun} {part rest : List UInt8}
    (hbegun : ∃ bs, bs ≠ [] ∧ List.Forall₂ Within k.rest (part ++ bs))
    (hstopped : ∀ b ∈ rest.head?, ∀ bs, ¬ List.Forall₂ Within k.rest (part ++ b :: bs)) :
    decodeFrom (some k) (part ++ rest) = replacement :: decodeFrom none rest := by
  -- a byte of the part leaves a character that has begun and needs one byte less
  induction part generalizing k with
  | nil =>
    cases rest with
    | nil => rfl
    | cons b bs =>
      refine decodeFrom_of_not_within ?_ bs
      intro hwithin
      exact hstopped b rfl _ (.cons hwithin (forall₂_replicate_behind (k.missing - 1)))
  | cons c part ih =>
    obtain ⟨bs, hbs, hrow⟩ := hbegun
    obtain ⟨hc, hbehind⟩ : Within (k.low, k.high) c ∧
        List.Forall₂ Within (List.replicate (k.missing - 1) behind) (part ++ bs) :=
      List.forall₂_cons.mp hrow
    have hmissing : 1 < k.missing := by
      have hlength := hbehind.length_eq
      have hpos := List.length_pos_of_ne_nil hbs
      rw [List.length_replicate, List.length_append] at hlength
      omega
    obtain ⟨next, hstep, hnext⟩ := step_of_within hc hmissing
    rw [← hnext] at hbehind
    rw [List.cons_append, decodeFrom, hstep]
    refine ih ⟨bs, hbs, hbehind⟩ ?_
    intro b hb cs hcs
    rw [hnext] at hcs
    exact hstopped b hb cs (.cons hc hcs)

/-- A byte that leads no character begins nothing longer than itself. -/
theorem Broken.part_eq_nil {b : UInt8} {part rest : List UInt8} (h : Broken (b :: part) rest)
    (hlead : ∀ k, start b ≠ ([], some k)) : part = [] := by
  by_contra hne
  have hnot : ¬ Begins (b :: part) := by
    intro hbegins
    rcases begins_cons hbegins with ⟨-, hnil⟩ | ⟨k, hk⟩
    · exact hne hnil
    · exact hlead k hk
  exact hne (List.length_eq_zero_iff.mp (Nat.succ.inj (h.single hnot)))

/-- **A part that breaks off is one U+FFFD**, and what stands behind it is read afresh. -/
theorem decodeFrom_broken {part rest : List UInt8} (h : Broken part rest) :
    decodeFrom none (part ++ rest) = replacement :: decodeFrom none rest := by
  cases part with
  | nil => exact absurd rfl h.nonempty
  | cons b part =>
    rcases start_cases b with ⟨hone, hstart⟩ | ⟨-, hstart⟩ | ⟨k, -, hstart⟩
    · -- a byte of ASCII is a character, which a part that breaks off is not
      have hpart : part = [] := h.part_eq_nil (by simp [hstart])
      exact absurd (isSequence_cons_iff.mpr (Or.inl ⟨hone, hpart⟩)) h.incomplete
    · have hpart : part = [] := h.part_eq_nil (by simp [hstart])
      rw [hpart, List.singleton_append, decodeFrom, step, hstart]
      rfl
    · have hbegun : Begins (b :: part) := by
        by_contra hnot
        rw [List.length_eq_zero_iff.mp (Nat.succ.inj (h.single hnot))] at hnot
        exact hnot (begins_of_start hstart)
      rw [List.cons_append, decodeFrom, step, hstart]
      -- behind the lead, breaking off is a matter of the rest of the row
      refine decodeFrom_begun ?_ ?_
      · obtain ⟨bs, hbs⟩ := hbegun
        refine ⟨bs, ?_, (isSequence_lead_iff hstart).mp hbs⟩
        rintro rfl
        rw [List.append_nil] at hbs
        exact h.incomplete hbs
      · intro c hc bs hbs
        refine h.stopped c hc ⟨bs, ?_⟩
        rw [List.append_assoc]
        exact (isSequence_lead_iff hstart).mpr hbs

/-! ## 5. Texts among bytes -/

/-- Whether the next byte that a character needs can only be one behind a lead. -/
def Begun.Open (k : Begun) : Prop := 0x80 ≤ k.low ∧ k.high ≤ 0xbf

theorem open_of_leads {b : UInt8} {k : Begun} (h : Leads b k) : k.Open := by
  unfold Begun.Open
  cases h with
  | two => exact ⟨Nat.le_refl _, Nat.le_refl _⟩
  | three =>
    constructor
    · simp only
      split <;> omega
    · simp only
      split <;> omega
  | four =>
    constructor
    · simp only
      split <;> omega
    · simp only
      split <;> omega

/-- **One step leaves the reader where only a byte behind a lead is needed**, whatever was needed
before. -/
theorem open_of_step {state : Option Begun} {b : UInt8} {k : Begun}
    (h : (step state b).2 = some k) : k.Open := by
  have hlead : (start b).2 = some k → k.Open := by
    intro hk
    rcases start_cases b with ⟨-, hstart⟩ | ⟨-, hstart⟩ | ⟨k', hleads, hstart⟩
    · rw [hstart] at hk
      cases hk
    · rw [hstart] at hk
      cases hk
    · rw [hstart] at hk
      cases hk
      exact open_of_leads hleads
  cases state with
  | none => exact hlead h
  | some c =>
    simp only [step] at h
    split at h
    · split at h
      · cases h
      · cases h
        exact ⟨Nat.le_refl _, Nat.le_refl _⟩
    · exact hlead h

theorem open_of_run (bs : List UInt8) {state : Option Begun} (hstate : ∀ k ∈ state, k.Open) :
    ∀ k ∈ (run state bs).2, k.Open := by
  induction bs generalizing state with
  | nil => exact hstate
  | cons b bs ih => exact ih fun k => open_of_step

theorem exists_lead (c : Char) :
    ∃ b bs, String.utf8EncodeChar c = b :: bs ∧ ¬ Within behind b := by
  have hsequence := isSequence_encodeChar c
  cases hbytes : String.utf8EncodeChar c with
  | nil =>
    rw [hbytes] at hsequence
    exact absurd hsequence not_isSequence_nil
  | cons b bs =>
    rw [hbytes] at hsequence
    refine ⟨b, bs, rfl, ?_⟩
    rintro ⟨hlow, hhigh⟩
    simp only [behind] at hlow hhigh
    rcases isSequence_cons_iff.mp hsequence with ⟨hone, -⟩ | ⟨k, hstart, -⟩
    · omega
    · have hlead := (leads_of_start hstart).le_toNat
      omega

/-- A text is read afresh, whatever has begun in front of it. -/
theorem decodeFrom_bytes {state : Option Begun} (hstate : ∀ k ∈ state, k.Open) {s : String}
    (hs : s ≠ "") (bs : List UInt8) :
    decodeFrom state (bytes s ++ bs) = finish state ++ s.toList ++ decodeFrom none bs := by
  have hread : decodeFrom none (bytes s ++ bs) = s.toList ++ decodeFrom none bs :=
    decodeFrom_encode_append s.toList bs
  cases state with
  | none => rw [hread, finish, List.nil_append]
  | some k =>
    obtain ⟨c, cs, hcs⟩ := List.exists_cons_of_ne_nil (fun h => hs (String.toList_eq_nil_iff.mp h))
    obtain ⟨b, ds, hlead, hnot⟩ := exists_lead c
    have hfront : bytes s ++ bs = b :: (ds ++ cs.flatMap String.utf8EncodeChar ++ bs) := by
      rw [bytes, hcs, List.flatMap_cons, hlead]
      rfl
    have hother : ¬ Within (k.low, k.high) b := by
      obtain ⟨hlow, hhigh⟩ := hstate k rfl
      rintro ⟨hlow', hhigh'⟩
      exact hnot ⟨Nat.le_trans hlow hlow', Nat.le_trans hhigh' hhigh⟩
    rw [hfront, decodeFrom_of_not_within hother, ← hfront, hread]
    rfl

/-- **The bytes of a text are read as the text wherever they stand.** -/
theorem decode_append_bytes {s : String} (hs : s ≠ "") (bs ds : List UInt8) :
    decode (bs ++ bytes s ++ ds) = decode bs ++ s ++ decode ds := by
  have hopen : ∀ k ∈ (run none bs).2, k.Open := open_of_run bs (fun k hk => by cases hk)
  rw [decode, decode, decode, List.append_assoc, decodeFrom_append, decodeFrom_bytes hopen hs,
    decodeFrom_eq_run none bs]
  simp only [String.ofList_append, String.ofList_toList, String.append_assoc]

end LoadingIndicator.Text.Utf8
