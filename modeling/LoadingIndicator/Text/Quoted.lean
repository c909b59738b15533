/-
# Quoted texts

A text in quotes that stays on one line: the quote and the backslash are written behind a
backslash, TAB, LF, CR and NUL by a letter, and every other hidden character by its number as
in `\u{200b}`.  All other characters stand for themselves.

Beside the writing `quote` stands the reading `readQuoted`, which takes a quoted text from the
front of a longer one.

Main statements:

* `readQuoted_quoteChars`: a quoted text is read back, whatever follows it;
* `quote_inj`: so quoted texts tell texts apart;
* `isHidden_of_mem_quoteChars`: a quoted text holds no hidden character.
-/
import LoadingIndicator.Text.Hex
import LoadingIndicator.Text.Hidden

namespace LoadingIndicator.Text

/-! ## 1. Writing -/

/-- A character by its number. -/
def spellOut (c : Char) : List Char := '\\' :: 'u' :: '{' :: Nat.toDigits 16 c.toNat ++ ['}']

/-- How a character stands in a quoted text. -/
def escape (c : Char) : List Char :=
  match c with
  | '"' => ['\\', '"']
  | '\\' => ['\\', '\\']
  | '\t' => ['\\', 't']
  | '\n' => ['\\', 'n']
  | '\r' => ['\\', 'r']
  | '\x00' => ['\\', '0']
  | c => if isHidden c then spellOut c else [c]

def quoteChars (cs : List Char) : List Char := '"' :: cs.flatMap escape ++ ['"']

def quote (s : String) : String := String.ofList (quoteChars s.toList)

@[simp] theorem toList_quote (s : String) : (quote s).toList = quoteChars s.toList := by
  simp [quote]

/-! ## 2. Reading -/

/-- Where the reading of a quoted text stands: between characters, behind a backslash, behind
the `u` of a number, or within its digits. -/
inductive QuoteMode
  | plain
  | backslash
  | number
  | digits (value : Nat)

/-- The character that a letter stands for behind a backslash. -/
def namedEscape? : Char → Option Char
  | '"' => some '"'
  | '\\' => some '\\'
  | 't' => some '\t'
  | 'n' => some '\n'
  | 'r' => some '\r'
  | '0' => some '\x00'
  | _ => none

/-- Puts a character in front of what was read. -/
def consRead (c : Char) : List Char × List Char → List Char × List Char
  | (cs, rest) => (c :: cs, rest)

/-- Reads up to the closing quote; gives the characters read and the rest behind the quote. -/
def readQuotedFrom : QuoteMode → List Char → Option (List Char × List Char)
  | _, [] => none
  | .plain, c :: cs =>
    if c = '"' then some ([], cs)
    else if c = '\\' then readQuotedFrom .backslash cs
    else (readQuotedFrom .plain cs).map (consRead c)
  | .backslash, c :: cs =>
    if c = 'u' then readQuotedFrom .number cs
    else
      match namedEscape? c with
      | some d => (readQuotedFrom .plain cs).map (consRead d)
      | none => none
  | .number, c :: cs => if c = '{' then readQuotedFrom (.digits 0) cs else none
  | .digits value, c :: cs =>
    if c = '}' then (readQuotedFrom .plain cs).map (consRead (Char.ofNat value))
    else
      match hexValue? c with
      | some d => readQuotedFrom (.digits (16 * value + d)) cs
      | none => none

/-- Reads a quoted text at the front; gives its characters and the rest behind it. -/
def readQuoted : List Char → Option (List Char × List Char)
  | [] => none
  | c :: cs => if c = '"' then readQuotedFrom .plain cs else none

/-! ## 3. A quoted text is read back -/

theorem readQuotedFrom_digitChar {n : Nat} (h : n < 16) (value : Nat) (cs : List Char) :
    readQuotedFrom (.digits value) (n.digitChar :: cs) =
      readQuotedFrom (.digits (16 * value + n)) cs := by
  have hbrace : ∀ m : Fin 16, (m : Nat).digitChar ≠ '}' := by decide
  rw [readQuotedFrom, if_neg (hbrace ⟨n, h⟩), hexValue?_digitChar h]

theorem readQuotedFrom_toDigits (n : Nat) (cs : List Char) :
    readQuotedFrom (.digits 0) (Nat.toDigits 16 n ++ cs) = readQuotedFrom (.digits n) cs := by
  induction n using Nat.strongRecOn generalizing cs with
  | ind n ih =>
    by_cases h : n < 16
    · rw [Nat.toDigits_of_lt_base h, List.singleton_append, readQuotedFrom_digitChar h]
      simp
    · rw [Nat.toDigits_of_base_le (by decide) (by omega), List.append_assoc,
        ih (n / 16) (by omega), List.singleton_append,
        readQuotedFrom_digitChar (Nat.mod_lt n (by decide)), Nat.div_add_mod]

theorem readQuotedFrom_spellOut (c : Char) (cs : List Char) :
    readQuotedFrom .plain (spellOut c ++ cs) = (readQuotedFrom .plain cs).map (consRead c) := by
  have hback : Char.ofNat c.toNat = c := Char.ofNat_toNat c
  simp only [spellOut, List.cons_append, List.append_assoc, List.nil_append]
  rw [readQuotedFrom, if_neg (by decide), if_pos rfl, readQuotedFrom, if_pos rfl, readQuotedFrom,
    if_pos rfl, readQuotedFrom_toDigits, readQuotedFrom, if_pos rfl, hback]

/-- A written character is read back. -/
theorem readQuotedFrom_escape (c : Char) (cs : List Char) :
    readQuotedFrom .plain (escape c ++ cs) = (readQuotedFrom .plain cs).map (consRead c) := by
  unfold escape
  split
  · rfl
  · rfl
  · rfl
  · rfl
  · rfl
  · rfl
  · rename_i hquote hbackslash _ _ _ _
    split
    · exact readQuotedFrom_spellOut c cs
    · rw [List.singleton_append, readQuotedFrom, if_neg (fun h => hquote h),
        if_neg (fun h => hbackslash h)]

/-- **A quoted text is read back**, whatever follows it. -/
theorem readQuoted_quoteChars (cs rest : List Char) :
    readQuoted (quoteChars cs ++ rest) = some (cs, rest) := by
  have hbody : readQuotedFrom .plain (cs.flatMap escape ++ '"' :: rest) = some (cs, rest) := by
    induction cs with
    | nil => rfl
    | cons c cs ih =>
      rw [List.flatMap_cons, List.append_assoc, readQuotedFrom_escape, ih]
      rfl
  simp only [quoteChars, List.cons_append, List.append_assoc, List.nil_append]
  rw [readQuoted, if_pos rfl, hbody]

/-- **Quoted texts tell texts apart.** -/
theorem quote_inj {s t : String} : quote s = quote t ↔ s = t := by
  constructor
  · intro h
    have hs := readQuoted_quoteChars s.toList []
    rw [← toList_quote, h, toList_quote, readQuoted_quoteChars] at hs
    exact (String.toList_inj.mp (congrArg Prod.fst (Option.some.inj hs))).symm
  · rintro rfl
    rfl

/-! ## 4. Nothing hidden is written -/

theorem isHidden_of_mem_toDigits (n : Nat) {d : Char} (h : d ∈ Nat.toDigits 16 n) :
    isHidden d = false := by
  induction n using Nat.strongRecOn with
  | ind n ih =>
    have hdigit : ∀ m : Fin 16, isHidden (m : Nat).digitChar = false := by decide +kernel
    by_cases hn : n < 16
    · rw [Nat.toDigits_of_lt_base hn, List.mem_singleton] at h
      subst h
      exact hdigit ⟨n, hn⟩
    · rw [Nat.toDigits_of_base_le (by decide) (by omega), List.mem_append,
        List.mem_singleton] at h
      rcases h with h | rfl
      · exact ih (n / 16) (by omega) h
      · exact hdigit ⟨n % 16, Nat.mod_lt n (by decide)⟩

theorem isHidden_of_mem_spellOut {c d : Char} (h : d ∈ spellOut c) : isHidden d = false := by
  simp only [spellOut, List.cons_append, List.mem_cons, List.mem_append, List.not_mem_nil,
    or_false] at h
  rcases h with rfl | rfl | rfl | h | rfl
  · decide +kernel
  · decide +kernel
  · decide +kernel
  · exact isHidden_of_mem_toDigits _ h
  · decide +kernel

theorem all_escape (c : Char) : (escape c).all (! isHidden ·) = true := by
  unfold escape
  split
  · decide +kernel
  · decide +kernel
  · decide +kernel
  · decide +kernel
  · decide +kernel
  · decide +kernel
  · split
    · rw [List.all_eq_true]
      intro d hd
      rw [isHidden_of_mem_spellOut hd]
      rfl
    · rename_i hhidden
      simpa using hhidden

/-- **A quoted text holds no hidden character.** -/
theorem isHidden_of_mem_quoteChars {cs : List Char} {d : Char} (h : d ∈ quoteChars cs) :
    isHidden d = false := by
  simp only [quoteChars, List.cons_append, List.mem_cons, List.mem_append, List.not_mem_nil,
    or_false] at h
  rcases h with rfl | h | rfl
  · decide +kernel
  · obtain ⟨c, -, hc⟩ := List.mem_flatMap.mp h
    have hd := List.all_eq_true.mp (all_escape c) d hc
    simpa using hd
  · decide +kernel

end LoadingIndicator.Text
