/-
# What a stored size may look like

Reading a stored size follows all of JSON's rules for strings and objects, yet the texts that it
accepts as one are few: the short name in quotes, each of its letters as itself or by its number,
and around it nothing but white space and, perhaps, an object whose value is null.  `Stored` is
that language, and it says nothing of how strings are read.

Between the two stands one fact on spellings.  A small letter has no named escape and is no half
of a pair, so of all the ways to write a character only two are left for it (`spellsChar_iff`).

Main statement:

* `decodeText_iff_stored`: a text is read as a size exactly when it is one of its stored forms,
  and every other text is refused.
-/
import LoadingIndicator.Size.Text
import LoadingIndicator.Text.Case

namespace LoadingIndicator.Size

open Json (Spaces Spells SpellsChar)

/-! ## 1. The language -/

/-- One way to write a letter: as itself, or by its number behind two zeros, with hexadecimal
digits in either case. -/
inductive WritesLetter (c : Char) : List Char → Prop
  | raw : WritesLetter c [c]
  | number {high low : Char} (hhigh : high.toLower = (c.toNat / 16).digitChar)
    (hlow : low.toLower = (c.toNat % 16).digitChar) :
    WritesLetter c ['\\', 'u', '0', '0', high, low]

/-- One way to write a text letter by letter. -/
inductive Writes : List Char → List Char → Prop
  | nil : Writes [] []
  | cons {c : Char} {cs written rest : List Char} (head : WritesLetter c written)
    (tail : Writes cs rest) : Writes (c :: cs) (written ++ rest)

/-- Whether a text is a stored form of a size: white space, its short name in quotes, alone or as
the only key of an object whose value is null, and white space again. -/
def Stored (text : String) (z : Size) : Prop :=
  ∃ before written form after, text.toList = before ++ form ++ after ∧ Spaces before ∧
    Spaces after ∧ Form (literal written) form ∧ Writes z.name.toList written

/-! ## 2. Letters -/

/-- Whether a character is a small letter of ASCII. -/
def isSmall (c : Char) : Bool := decide (0x61 ≤ c.toNat) && decide (c.toNat ≤ 0x7a)

theorem isSmall_of_mem_name {z : Size} {c : Char} (h : c ∈ z.name.toList) : isSmall c = true := by
  have hall : z.name.toList.all isSmall = true := by cases z <;> decide
  exact List.all_eq_true.mp hall c h

/-- A hexadecimal digit stands for a number exactly if, in lower case, it is the digit written for
it. -/
theorem hexValue?_eq_some_iff {c : Char} {n : Nat} (hn : n < 16) :
    Text.hexValue? c = some n ↔ c.toLower = n.digitChar := by
  have hall : ∀ (k : Fin 128) (m : Fin 16),
      Text.hexValue? (Char.ofNat k) = some (m : Nat) ↔
        (Char.ofNat k).toLower = (m : Nat).digitChar := by decide +kernel
  by_cases hc : c.toNat < 0x80
  · exact Text.forall_ascii (P := fun c => ∀ m : Fin 16, Text.hexValue? c = some (m : Nat) ↔
      c.toLower = (m : Nat).digitChar) hall hc ⟨n, hn⟩
  · constructor
    · intro h
      unfold Text.hexValue? at h
      rw [if_neg (by omega), if_neg (by omega), if_neg (by omega)] at h
      cases h
    · intro h
      have hbound : ∀ m : Fin 16, (m : Nat).digitChar.toNat < 0x80 := by decide
      have hlower : c.toLower.toNat < 0x80 := by
        rw [h]
        exact hbound ⟨n, hn⟩
      exact absurd (Text.ascii_of_toLower hlower) hc

theorem hexPair?_eq_some_iff {high low : Char} {n : Nat} (hn : n < 256) :
    Text.hexPair? high low = some n ↔
      high.toLower = (n / 16).digitChar ∧ low.toLower = (n % 16).digitChar := by
  have hmod : n % 16 < 16 := Nat.mod_lt n (by decide)
  rw [← hexValue?_eq_some_iff (c := high) (n := n / 16) (by omega),
    ← hexValue?_eq_some_iff (c := low) hmod]
  unfold Text.hexPair?
  constructor
  · intro h
    obtain ⟨hi, hhigh, hrest⟩ := Option.bind_eq_some_iff.mp h
    obtain ⟨lo, hlow, hsum⟩ := Option.bind_eq_some_iff.mp hrest
    have hlo := Text.hexValue?_lt hlow
    have hvalue : 16 * hi + lo = n := Option.some.inj hsum
    have hdiv : hi = n / 16 := by omega
    have hrem : lo = n % 16 := by omega
    rw [hhigh, hlow, hdiv, hrem]
    exact ⟨rfl, rfl⟩
  · rintro ⟨hhigh, hlow⟩
    rw [hhigh, hlow]
    exact congrArg some (Nat.div_add_mod n 16)

theorem eq_zero_of_toLower {c : Char} (h : c.toLower = '0') : c = '0' := by
  have hall : ∀ k : Fin 128, (Char.ofNat k).toLower = '0' → Char.ofNat k = '0' := by
    decide +kernel
  have hascii : c.toNat < 0x80 := by
    refine Text.ascii_of_toLower ?_
    rw [h]
    decide
  exact Text.forall_ascii (P := fun c => c.toLower = '0' → c = '0') hall hascii h

/-- Four digits that stand for less than 256 begin with two zeros. -/
theorem zeros_of_hexQuad? {a b c d : Char} {n : Nat} (hn : n < 256)
    (h : Text.hexQuad? a b c d = some n) :
    a = '0' ∧ b = '0' ∧ Text.hexPair? c d = some n := by
  unfold Text.hexQuad? at h
  obtain ⟨hi, hhigh, hrest⟩ := Option.bind_eq_some_iff.mp h
  obtain ⟨lo, hlow, hsum⟩ := Option.bind_eq_some_iff.mp hrest
  have hvalue : 256 * hi + lo = n := Option.some.inj hsum
  have hzero : hi = 0 := by omega
  have hlast : lo = n := by omega
  rw [hzero] at hhigh
  rw [hlast] at hlow
  obtain ⟨ha, hb⟩ := (hexPair?_eq_some_iff (by decide)).mp hhigh
  exact ⟨eq_zero_of_toLower ha, eq_zero_of_toLower hb, hlow⟩

/-! ## 3. Names -/

/-- **Two ways to write a small letter**: of all spellings of a character no others are left. -/
theorem spellsChar_iff {c : Char} (hc : isSmall c = true) {written : List Char} :
    SpellsChar c written ↔ WritesLetter c written := by
  simp only [isSmall, Bool.and_eq_true, decide_eq_true_eq] at hc
  obtain ⟨hlow, hhigh⟩ := hc
  constructor
  · intro h
    cases h with
    | plain => exact .raw
    | @short c letter named =>
      -- what a letter behind a backslash stands for is no small letter
      unfold Json.shortEscape? at named
      split at named <;> cases named <;> exact absurd hlow (by decide)
    | @number a b d e n digits lead trail =>
      rw [Json.toNat_of_number digits lead trail] at hlow hhigh
      obtain ⟨rfl, rfl, hpair⟩ := zeros_of_hexQuad? (by omega) digits
      obtain ⟨hd, he⟩ := (hexPair?_eq_some_iff (by omega)).mp hpair
      refine .number ?_ ?_
      · rw [Json.toNat_of_number digits lead trail]
        exact hd
      · rw [Json.toNat_of_number digits lead trail]
        exact he
    | halves first second lead trail =>
      have hbeyond := Json.toNat_joinHalves lead trail
      omega
  · intro h
    cases h with
    | raw =>
      refine .plain ?_ ?_ (by omega)
      · rintro rfl
        exact absurd hlow (by decide)
      · rintro rfl
        exact absurd hlow (by decide)
    | @number high low hd he =>
      have hdigits : Text.hexPair? high low = some c.toNat :=
        (hexPair?_eq_some_iff (by omega)).mpr ⟨hd, he⟩
      exact Json.spellsChar_of_hexPair? hdigits

/-- A text of small letters is spelled exactly as it is written letter by letter. -/
theorem spells_iff_writes {cs : List Char} (hcs : ∀ c ∈ cs, isSmall c = true)
    {written : List Char} : Spells cs written ↔ Writes cs written := by
  constructor
  · intro h
    induction h with
    | nil => exact .nil
    | cons head _ ih =>
      exact .cons ((spellsChar_iff (hcs _ (by simp))).mp head)
        (ih fun c hc => hcs c (by simp [hc]))
  · intro h
    induction h with
    | nil => exact .nil
    | cons head _ ih =>
      exact .cons ((spellsChar_iff (hcs _ (by simp))).mpr head)
        (ih fun c hc => hcs c (by simp [hc]))

/-! ## 4. Reading accepts the language -/

/-- A text is read as a size exactly when it is a stored form of that size. -/
theorem decodeText_eq_ok_iff_stored {text : String} {z : Size} :
    decodeText text = .ok z ↔ Stored text z := by
  simp only [decodeText_eq_ok_iff, Stored, spells_iff_writes fun _ => isSmall_of_mem_name]

/-! ## 5. What a stored form is made of -/

/-- Whether a text is of ASCII and has no comma. -/
def Plain (cs : List Char) : Prop := ∀ c ∈ cs, c.toNat < 0x80 ∧ c ≠ ','

theorem Plain.append {cs ds : List Char} (hcs : Plain cs) (hds : Plain ds) : Plain (cs ++ ds) := by
  intro c hc
  rcases List.mem_append.mp hc with hc | hc
  · exact hcs c hc
  · exact hds c hc

theorem plain_of_all {cs : List Char}
    (h : (cs.all fun c => decide (c.toNat < 0x80) && c != ',') = true) : Plain cs := by
  intro c hc
  have hboth := List.all_eq_true.mp h c hc
  simp only [Bool.and_eq_true, decide_eq_true_eq, bne_iff_ne] at hboth
  exact hboth

theorem plain_of_spaces {cs : List Char} (h : Spaces cs) : Plain cs := by
  intro c hc
  have hspace := h c hc
  simp only [Json.isSpace, Bool.or_eq_true, beq_iff_eq] at hspace
  rcases hspace with ((rfl | rfl) | rfl) | rfl <;> exact ⟨by decide, by decide⟩

theorem plain_of_toLower {c : Char} {n : Nat} (hn : n < 16) (h : c.toLower = n.digitChar) :
    Plain [c] := by
  have hdigit : ∀ m : Fin 16, (m : Nat).digitChar.toNat < 0x80 ∧ (m : Nat).digitChar ≠ ',' := by
    decide
  obtain ⟨hascii, hcomma⟩ := hdigit ⟨n, hn⟩
  intro d hd
  obtain rfl := List.mem_singleton.mp hd
  constructor
  · refine Text.ascii_of_toLower ?_
    rw [h]
    exact hascii
  · rintro rfl
    exact hcomma h.symm

theorem plain_of_writesLetter {c : Char} {written : List Char} (hc : isSmall c = true)
    (h : WritesLetter c written) : Plain written := by
  simp only [isSmall, Bool.and_eq_true, decide_eq_true_eq] at hc
  cases h with
  | raw =>
    intro d hd
    obtain rfl := List.mem_singleton.mp hd
    refine ⟨by omega, ?_⟩
    rintro rfl
    exact absurd hc.1 (by decide)
  | number hhigh hlow =>
    have hfront : Plain ['\\', 'u', '0', '0'] := plain_of_all (by decide)
    have hdigits := (plain_of_toLower (by omega) hhigh).append
      (plain_of_toLower (Nat.mod_lt _ (by decide)) hlow)
    exact hfront.append hdigits

theorem plain_of_writes {cs written : List Char} (hcs : ∀ c ∈ cs, isSmall c = true)
    (h : Writes cs written) : Plain written := by
  induction h with
  | nil => exact plain_of_all rfl
  | cons head _ ih =>
    exact (plain_of_writesLetter (hcs _ (by simp)) head).append
      (ih fun c hc => hcs c (by simp [hc]))

/-- **A stored form is plain**: nothing beyond ASCII stands in it, not even around the value, and
no comma, so that an object in it has one entry and no more. -/
theorem plain_of_stored {text : String} {z : Size} (h : Stored text z) : Plain text.toList := by
  obtain ⟨before, written, form, after, htext, hbefore, hafter, hform, hwrites⟩ := h
  have hliteral : Plain (literal written) := by
    have hquote : Plain ['"'] := plain_of_all (by decide)
    have hname := plain_of_writes (fun _ => isSmall_of_mem_name) hwrites
    exact (hquote.append hname).append hquote
  have hinner : Plain form := by
    cases hform with
    | alone => exact hliteral
    | entry h₁ h₂ h₃ h₄ =>
      have hopen : Plain ['{'] := plain_of_all (by decide)
      have hcolon : Plain [':'] := plain_of_all (by decide)
      have hnull : Plain ['n', 'u', 'l', 'l'] := plain_of_all (by decide)
      have hclose : Plain ['}'] := plain_of_all (by decide)
      have hkey := (hopen.append (plain_of_spaces h₁)).append hliteral
      have hvalue := ((hkey.append (plain_of_spaces h₂)).append hcolon).append (plain_of_spaces h₃)
      exact ((hvalue.append hnull).append (plain_of_spaces h₄)).append hclose
  rw [htext]
  exact ((plain_of_spaces hbefore).append hinner).append (plain_of_spaces hafter)

/-- **Only white space may follow a stored form.** -/
theorem exists_decodeText_append_iff {text : String} {z : Size} (h : Stored text z)
    (more : String) : (∃ y, decodeText (text ++ more) = .ok y) ↔ Spaces more.toList := by
  rw [decodeText_append_of_ok (decodeText_eq_ok_iff_stored.mpr h), ← Json.skipSpace_eq_nil_iff]
  simp only [List.isEmpty_iff]
  split
  · rename_i hskip
    exact ⟨fun _ => hskip, fun _ => ⟨z, rfl⟩⟩
  · rename_i hskip
    constructor
    · rintro ⟨y, hy⟩
      cases hy
    · intro hnil
      exact absurd hnil hskip

/-- **Reading accepts the stored forms and nothing else.**  A text is read as a size exactly when
it is a stored form of that size; every other text is refused.  In particular a text that is read
has no character beyond ASCII, not even around the value, and no comma, and with anything but
white space behind it it is refused. -/
theorem decodeText_iff_stored (text : String) :
    (∀ z, decodeText text = .ok z ↔ Stored text z) ∧
      ((∀ z, ¬ Stored text z) → ∃ e, decodeText text = .error e) ∧
      ∀ z, decodeText text = .ok z →
        (∀ c ∈ text.toList, c.toNat < 0x80 ∧ c ≠ ',') ∧
          ∀ more : String, (∃ y, decodeText (text ++ more) = .ok y) ↔ Spaces more.toList := by
  refine ⟨fun z => decodeText_eq_ok_iff_stored, ?_, ?_⟩
  · intro hnone
    cases hread : decodeText text with
    | error e => exact ⟨e, rfl⟩
    | ok z => exact absurd (decodeText_eq_ok_iff_stored.mp hread) (hnone z)
  · intro z hread
    have hstored := decodeText_eq_ok_iff_stored.mp hread
    exact ⟨plain_of_stored hstored, exists_decodeText_append_iff hstored⟩

/-- Texts that come close to a stored form: with the long name, in capitals, with blanks within the
quotes or foreign ones around them, with no entry, two of them, one twice, a comma too many,
another value, or something behind. -/
def nearMisses : List String :=
  ["\"large\"", "\"LG\"", "\" lg\"", "\u00a0\"lg\"", "\ufeff\"lg\"", "\x7b\x7d",
    "\x7b\"lg\":null,\"sm\":null\x7d", "\x7b\"lg\":null,\"lg\":null\x7d", "\x7b\"lg\":null,\x7d",
    "\x7b\"lg\":0\x7d", "\"lg\" x"]

/-- A letter by its number and white space at every mark are read; what comes close is refused. -/
theorem decodeText_iff_stored_escaped :
    Stored " \x7b\t\"\\u006Cg\" :\nnull\r\x7d " .large ∧
      decodeText " \x7b\t\"\\u006Cg\" :\nnull\r\x7d " = .ok .large ∧
      (¬ ∃ y, decodeText (" \x7b\t\"\\u006Cg\" :\nnull\r\x7d " ++ ",") = .ok y) ∧
      ∀ text ∈ nearMisses, (∀ z, ¬ Stored text z) ∧ ∃ e, decodeText text = .error e := by
  have hwritten :
      Writes Size.large.name.toList (['\\', 'u', '0', '0', '6', 'C'] ++ (['g'] ++ [])) :=
    .cons (.number (by decide) (by decide)) (.cons .raw .nil)
  have hspaces : ∀ w ∈ [[' '], ['\t'], ['\n'], ['\r']], Spaces w := by
    intro w hw
    simp only [List.mem_cons, List.not_mem_nil, or_false] at hw
    rcases hw with rfl | rfl | rfl | rfl <;> exact List.all_eq_true.mp (by decide)
  have hstored : Stored " \x7b\t\"\\u006Cg\" :\nnull\r\x7d " .large :=
    ⟨[' '], _, _, [' '], rfl, hspaces _ (by simp), hspaces _ (by simp),
      .entry (hspaces ['\t'] (by simp)) (hspaces [' '] (by simp)) (hspaces ['\n'] (by simp))
        (hspaces ['\r'] (by simp)), hwritten⟩
  have hread := ((decodeText_iff_stored _).1 .large).mpr hstored
  refine ⟨hstored, hread, ?_, ?_⟩
  · obtain ⟨-, hbehind⟩ := (decodeText_iff_stored _).2.2 .large hread
    rw [hbehind ","]
    intro hspace
    exact absurd (hspace ',' (by decide)) (by decide)
  · intro text htext
    have hall : nearMisses.all (fun t => (decodeText t).toOption.isNone) = true := by
      decide +kernel
    have hrefused := List.all_eq_true.mp hall text htext
    have hnone : ∀ z, ¬ Stored text z := by
      intro z h
      rw [((decodeText_iff_stored text).1 z).mpr h] at hrefused
      cases hrefused
    exact ⟨hnone, (decodeText_iff_stored text).2.1 hnone⟩

end LoadingIndicator.Size
