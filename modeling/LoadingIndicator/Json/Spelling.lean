/-
# The spellings of a JSON string

A string can be written in many ways: a character as itself, behind a backslash by a letter, or
by its number in four hexadecimal digits of either case, and a character beyond U+FFFF also by
the numbers of two halves.  `Spells` relates a text to each of its spellings without saying how
one is read.

Main statements:

* `scanChars_of_spells`: each spelling, closed by a quote, is read as the text it spells;
* `spells_of_scanChars`: what is read is a spelling of what was read, and the closing quote;
* `spells_printChars`: compact text is one of the spellings;
* `scanKind_of_shows`: the kind of a value is told by its front, whatever follows.
-/
import LoadingIndicator.Json.Printer
import LoadingIndicator.Json.Scanner

namespace LoadingIndicator.Json

/-! ## 1. Characters and texts -/

/-- One way to write a character in a string. -/
inductive SpellsChar : Char → List Char → Prop
  | plain {c : Char} (quote : c ≠ '"') (backslash : c ≠ '\\') (printable : 0x20 ≤ c.toNat) :
    SpellsChar c [c]
  | short {c letter : Char} (named : shortEscape? letter = some c) : SpellsChar c ['\\', letter]
  | number {a b c d : Char} {n : Nat} (digits : Text.hexQuad? a b c d = some n)
    (lead : isLeading n = false) (trail : isTrailing n = false) :
    SpellsChar (Char.ofNat n) ['\\', 'u', a, b, c, d]
  | halves {a b c d e f g h : Char} {m n : Nat} (first : Text.hexQuad? a b c d = some m)
    (second : Text.hexQuad? e f g h = some n) (lead : isLeading m = true)
    (trail : isTrailing n = true) :
    SpellsChar (joinHalves m n) ['\\', 'u', a, b, c, d, '\\', 'u', e, f, g, h]

/-- One way to write a text between the quotes of a string. -/
inductive Spells : List Char → List Char → Prop
  | nil : Spells [] []
  | cons {c : Char} {cs spelled rest : List Char} (head : SpellsChar c spelled)
    (tail : Spells cs rest) : Spells (c :: cs) (spelled ++ rest)

theorem toNat_of_number {a b c d : Char} {n : Nat} (digits : Text.hexQuad? a b c d = some n)
    (lead : isLeading n = false) (trail : isTrailing n = false) : (Char.ofNat n).toNat = n := by
  have hbound := Text.hexQuad?_lt digits
  simp only [isLeading, isTrailing, Bool.and_eq_false_iff, decide_eq_false_iff_not] at lead trail
  refine Text.toNat_charOfNat ?_
  rw [Nat.isValidChar]
  omega

/-- A character that is spelled by two halves is beyond U+FFFF. -/
theorem toNat_joinHalves {m n : Nat} (lead : isLeading m = true) (trail : isTrailing n = true) :
    0x10000 ≤ (joinHalves m n).toNat := by
  simp only [isLeading, isTrailing, Bool.and_eq_true, decide_eq_true_eq] at lead trail
  have hvalid : (0x10000 + 0x400 * (m - 0xd800) + (n - 0xdc00)).isValidChar := by
    rw [Nat.isValidChar]
    omega
  rw [joinHalves, Text.toNat_charOfNat hvalid]
  omega

theorem spellsChar_of_hexPair? {high low c : Char} (h : Text.hexPair? high low = some c.toNat) :
    SpellsChar c ['\\', 'u', '0', '0', high, low] := by
  have hbound := Text.hexPair?_lt h
  have hdigits : Text.hexQuad? '0' '0' high low = some c.toNat := by rw [Text.hexQuad?_zeros, h]
  have hlead : isLeading c.toNat = false := by
    rw [isLeading, Bool.and_eq_false_iff, decide_eq_false_iff_not]
    exact Or.inl (by omega)
  have htrail : isTrailing c.toNat = false := by
    rw [isTrailing, Bool.and_eq_false_iff, decide_eq_false_iff_not]
    exact Or.inl (by omega)
  have hspelled := SpellsChar.number hdigits hlead htrail
  rw [Char.ofNat_toNat] at hspelled
  exact hspelled

/-! ## 2. Spellings are read -/

theorem isTrailing_of_isLeading {n : Nat} (h : isLeading n = true) : isTrailing n = false := by
  simp only [isLeading, isTrailing, Bool.and_eq_true, decide_eq_true_eq, Bool.and_eq_false_iff,
    decide_eq_false_iff_not] at *
  omega

theorem ne_u_of_shortEscape? {letter c : Char} (h : shortEscape? letter = some c) :
    letter ≠ 'u' := by
  rintro rfl
  simp [shortEscape?] at h

theorem scanChars_of_spellsChar {c : Char} {spelled : List Char} (h : SpellsChar c spelled)
    (cs : List Char) :
    scanChars (spelled ++ cs) = (scanChars cs).map fun taken => (c :: taken.1, taken.2) := by
  cases h with
  | plain quote backslash printable => exact scanChars_plain quote backslash (by omega) cs
  | @short c letter named =>
    have hescape : scanEscape (letter :: cs) = .ok (c, cs) := by
      rw [scanEscape, if_neg (ne_u_of_shortEscape? named), named]
    exact scanChars_escape hescape
  | @number a b c d n digits lead trail =>
    have hescape : scanEscape ('u' :: a :: b :: c :: d :: cs) = .ok (Char.ofNat n, cs) := by
      rw [scanEscape, if_pos rfl, scanNumbered, scanQuad, digits]
      simp [lead, trail]
    exact scanChars_escape hescape
  | @halves a b c d e f g h m n first second lead trail =>
    have hescape : scanEscape ('u' :: a :: b :: c :: d :: '\\' :: 'u' :: e :: f :: g :: h :: cs)
        = .ok (joinHalves m n, cs) := by
      rw [scanEscape, if_pos rfl, scanNumbered, scanQuad, first]
      simp [lead, isTrailing_of_isLeading lead, scanTrailing, scanWord, scanQuad, second, trail]
    exact scanChars_escape hescape

/-- **Each spelling, closed by a quote, is read as the text it spells.** -/
theorem scanChars_of_spells {cs spelled : List Char} (h : Spells cs spelled) (rest : List Char) :
    scanChars (spelled ++ '"' :: rest) = .ok (cs, rest) := by
  induction h with
  | nil => rw [List.nil_append, scanChars, if_pos rfl]
  | cons head _ ih =>
    rw [List.append_assoc, scanChars_of_spellsChar head, ih]
    rfl

/-! ## 3. What is read is a spelling -/

theorem spellsChar_of_scanNumbered {cs rest : List Char} {c : Char}
    (h : scanNumbered cs = .ok (c, rest)) :
    ∃ spelled, cs = spelled ++ rest ∧ SpellsChar c ('\\' :: 'u' :: spelled) := by
  obtain ⟨n, mid, hquad, hnumber⟩ := exists_of_scanNumbered h
  obtain ⟨a, b, d, e, rfl, hdigits⟩ := exists_of_scanQuad hquad
  rcases hnumber with ⟨hlead, htrail, rfl, rfl⟩ | ⟨hlead, hsecond⟩
  · exact ⟨[a, b, d, e], rfl, .number hdigits hlead htrail⟩
  · obtain ⟨trail, last, rfl, hquad', htrail, hjoined⟩ := exists_of_scanTrailing hsecond
    obtain ⟨f, g, i, j, rfl, hdigits'⟩ := exists_of_scanQuad hquad'
    rw [hjoined]
    exact ⟨[a, b, d, e, '\\', 'u', f, g, i, j], rfl, .halves hdigits hdigits' hlead htrail⟩

/-- An escape that was taken is one way to write its character. -/
theorem spellsChar_of_scanEscape {cs rest : List Char} {c : Char}
    (h : scanEscape cs = .ok (c, rest)) :
    ∃ spelled, cs = spelled ++ rest ∧ SpellsChar c ('\\' :: spelled) := by
  rcases exists_of_scanEscape h with ⟨mid, rfl, hnumber⟩ | ⟨letter, rfl, hshort⟩
  · obtain ⟨spelled, rfl, hspells⟩ := spellsChar_of_scanNumbered hnumber
    exact ⟨'u' :: spelled, rfl, hspells⟩
  · exact ⟨[letter], rfl, .short hshort⟩

/-- **What is read is a spelling of what was read**, and behind it the closing quote. -/
theorem spells_of_scanChars {cs ds rest : List Char} (h : scanChars cs = .ok (ds, rest)) :
    ∃ spelled, cs = spelled ++ '"' :: rest ∧ Spells ds spelled := by
  fun_induction scanChars cs generalizing ds rest with
  | case1 => cases h
  | case2 cs =>
    simp only [Except.ok.injEq, Prod.mk.injEq] at h
    obtain ⟨rfl, rfl⟩ := h
    exact ⟨[], rfl, .nil⟩
  | case3 => cases h
  | case4 => cases h
  | case5 cs d mid hescape es last hmid _ ih =>
    simp only [Except.ok.injEq, Prod.mk.injEq] at h
    obtain ⟨rfl, rfl⟩ := h
    obtain ⟨spelled, hrest, hspells⟩ := ih hmid
    obtain ⟨front, hfront, hchar⟩ := spellsChar_of_scanEscape hescape
    refine ⟨('\\' :: front) ++ spelled, ?_, .cons hchar hspells⟩
    rw [hfront, hrest]
    simp
  | case6 => cases h
  | case7 => cases h
  | case8 c cs hquote hbackslash hprintable es last hmid ih =>
    simp only [Except.ok.injEq, Prod.mk.injEq] at h
    obtain ⟨rfl, rfl⟩ := h
    obtain ⟨spelled, hrest, hspells⟩ := ih hmid
    refine ⟨[c] ++ spelled, ?_, .cons (.plain hquote hbackslash (by omega)) hspells⟩
    rw [hrest]
    simp

/-- **A string is taken exactly where a spelling of it is closed by a quote.** -/
theorem scanString_eq_ok_iff {cs rest : List Char} {s : String} :
    scanString cs = .ok (s, rest) ↔
      ∃ spelled, cs = spelled ++ '"' :: rest ∧ Spells s.toList spelled := by
  constructor
  · intro h
    rw [scanString] at h
    split at h
    · cases h
    · rename_i ds last hchars
      simp only [Except.ok.injEq, Prod.mk.injEq] at h
      obtain ⟨rfl, rfl⟩ := h
      rw [String.toList_ofList]
      exact spells_of_scanChars hchars
  · rintro ⟨spelled, rfl, hspells⟩
    rw [scanString, scanChars_of_spells hspells]
    simp only [String.ofList_toList]

/-! ## 4. Compact text -/

theorem spellsChar_printChar (c : Char) : SpellsChar c (printChar c) := by
  unfold printChar
  split
  · exact .short rfl
  · exact .short rfl
  · exact .short rfl
  · exact .short rfl
  · exact .short rfl
  · exact .short rfl
  · exact .short rfl
  · rename_i hquote hbackslash _ _ _ _ _
    split
    · rename_i hcontrol
      exact spellsChar_of_hexPair? (Text.hexPair?_digitChar (by omega))
    · exact .plain (fun h => hquote h) (fun h => hbackslash h) (by omega)

/-- **Compact text is one of the spellings**, so that every text has one. -/
theorem spells_printChars (cs : List Char) : Spells cs (printChars cs) := by
  induction cs with
  | nil => exact .nil
  | cons c cs ih =>
    rw [printChars, List.flatMap_cons]
    exact .cons (spellsChar_printChar c) ih

/-! ## 5. The front of a value -/

/-- What tells the kind of a value that is no number: a word, a spelled string in quotes, or the
bracket that opens a container. -/
inductive Shows : Kind → List Char → Prop
  | null : Shows .null ['n', 'u', 'l', 'l']
  | yes : Shows (.bool true) ['t', 'r', 'u', 'e']
  | no : Shows (.bool false) ['f', 'a', 'l', 's', 'e']
  | string {s : String} {spelled : List Char} (content : Spells s.toList spelled) :
    Shows (.string s) ('"' :: spelled ++ ['"'])
  | sequence : Shows .sequence ['[']
  | map : Shows .map ['{']

/-- **What tells the kind is all that is taken**, whatever follows. -/
theorem scanKind_of_shows {kind : Kind} {front : List Char} (h : Shows kind front)
    (rest : List Char) : scanKind (front ++ rest) = .ok (kind, rest) := by
  cases h with
  | null => exact scanKind_eq_null_iff.mpr rfl
  | yes => rfl
  | no => rfl
  | @string s spelled content =>
    have hstring : scanString (spelled ++ '"' :: rest) = .ok (s, rest) :=
      scanString_eq_ok_iff.mpr ⟨spelled, rfl, content⟩
    have hfront : '"' :: spelled ++ ['"'] ++ rest = '"' :: (spelled ++ '"' :: rest) := by simp
    rw [hfront, scanKind, if_pos rfl, hstring]
    rfl
  | sequence => rfl
  | map => rfl

theorem skipSpace_of_shows {kind : Kind} {front : List Char} (h : Shows kind front)
    (rest : List Char) : skipSpace (front ++ rest) = front ++ rest := by
  cases h <;> exact skipSpace_cons (by decide) _

/-- **Compact text begins with what tells the kind of its value**, unless it is a number. -/
theorem shows_printValue {v : Value} (h : ∀ n, v ≠ .number n) :
    ∃ front rest, printValue v = front ++ rest ∧ Shows v.kind front := by
  cases v with
  | null => exact ⟨_, [], rfl, .null⟩
  | bool b =>
    cases b with
    | true => exact ⟨_, [], rfl, .yes⟩
    | false => exact ⟨_, [], rfl, .no⟩
  | number n => exact absurd rfl (h n)
  | string s =>
    refine ⟨printString s, [], ?_, .string (spells_printChars _)⟩
    rw [printValue, List.append_nil]
  | array items =>
    refine ⟨['['], printItems items, ?_, .sequence⟩
    rw [printValue, List.singleton_append]
  | object entries =>
    refine ⟨['{'], printEntries entries, ?_, .map⟩
    rw [printValue, List.singleton_append]

end LoadingIndicator.Json
