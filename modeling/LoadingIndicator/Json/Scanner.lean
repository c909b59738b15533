/-
# Scanning JSON text from left to right

Each scanner takes one thing from the front of a text and gives the rest behind it.  A scanner
fails for one of two causes that never mix: the text breaks a rule at a character that is
there, or it ended where more was needed.  So a text with a `Defect` keeps that defect whatever
follows it, and an `ended` one may still become right.

Main statements:

* `skipSpace_eq_cons_iff`: what is left of a text behind white space;
* `exists_of_scanEscape`, `exists_of_scanNumbered`: what was taken as an escape;
* `length_lt_of_scanEscape`: an escape takes at least one character, on which the reading of a
  string rests;
* `scanWord_append`: a word that stands at the front is taken, whatever follows.
-/
import LoadingIndicator.Json.Number

namespace LoadingIndicator.Json

/-- The rule that a text breaks, at the character where it is seen to.  What is refused in a fixed
word depends on where the word is wanted, so `scanWord` is told its defect. -/
inductive Defect
  | noValue
  | badWord
  | badNumber
  | numberTooLarge
  | badEscape
  | controlCharacter
  | loneHalf
  | missingHalf
  | keyNoString
  | noColon
  | noCommaOrBracket
  | noCommaOrBrace
  | trailing
  deriving DecidableEq

/-- Why a text is refused: it breaks a rule, or it ends too early. -/
inductive Fault
  | defect (d : Defect)
  | ended
  deriving DecidableEq

/-- A broken rule, whichever it is: the pattern for a caller that only has to tell it from the end
of the text. -/
@[match_pattern]
abbrev Fault.malformed {d : Defect} : Fault := .defect d

/-- What a scanner gives: what it took and the rest of the text, or the cause of its failure. -/
abbrev Scan (α : Type) := Except Fault (α × List Char)

/-! ## 1. White space and fixed words -/

/-- JSON's white space: the space, TAB, LF and CR and nothing else. -/
def isSpace (c : Char) : Bool := c == ' ' || c == '\t' || c == '\n' || c == '\r'

/-- A text without the white space in front. -/
def skipSpace (cs : List Char) : List Char := cs.dropWhile isSpace

/-- Whether a text is white space throughout. -/
def Spaces (cs : List Char) : Prop := ∀ c ∈ cs, isSpace c = true

theorem spaces_nil : Spaces [] := by
  intro c hc
  cases hc

theorem exists_skipSpace (cs : List Char) : ∃ w, Spaces w ∧ cs = w ++ skipSpace cs := by
  refine ⟨cs.takeWhile isSpace, ?_, List.takeWhile_append_dropWhile.symm⟩
  exact List.all_eq_true.mp List.all_takeWhile

theorem skipSpace_append {w : List Char} (hw : Spaces w) (cs : List Char) :
    skipSpace (w ++ cs) = skipSpace cs := List.dropWhile_append_of_pos hw

theorem skipSpace_cons {c : Char} (hc : isSpace c = false) (cs : List Char) :
    skipSpace (c :: cs) = c :: cs :=
  List.dropWhile_cons_of_neg (by rw [hc]; exact Bool.false_ne_true)

/-- **What is left stands behind white space.** -/
theorem skipSpace_eq_cons_iff {c : Char} (hc : isSpace c = false) {cs rest : List Char} :
    skipSpace cs = c :: rest ↔ ∃ w, Spaces w ∧ cs = w ++ c :: rest := by
  constructor
  · intro h
    obtain ⟨w, hw, hcs⟩ := exists_skipSpace cs
    exact ⟨w, hw, by rw [← h]; exact hcs⟩
  · rintro ⟨w, hw, rfl⟩
    rw [skipSpace_append hw, skipSpace_cons hc]

theorem skipSpace_eq_nil_iff {cs : List Char} : skipSpace cs = [] ↔ Spaces cs := by
  constructor
  · intro h
    obtain ⟨w, hw, hcs⟩ := exists_skipSpace cs
    rw [h, List.append_nil] at hcs
    rw [hcs]
    exact hw
  · intro h
    have hskip := skipSpace_append h []
    rw [List.append_nil] at hskip
    exact hskip

/-- Takes a fixed word; other letters are the given defect. -/
def scanWord (d : Defect) : List Char → List Char → Except Fault (List Char)
  | [], cs => .ok cs
  | _ :: _, [] => .error .ended
  | w :: ws, c :: cs => if c = w then scanWord d ws cs else .error (.defect d)

/-- **A word that stands at the front is taken.** -/
theorem scanWord_append (d : Defect) (ws cs : List Char) : scanWord d ws (ws ++ cs) = .ok cs := by
  induction ws with
  | nil => rfl
  | cons w ws ih => simpa [scanWord] using ih

theorem eq_append_of_scanWord {d : Defect} {ws cs rest : List Char}
    (h : scanWord d ws cs = .ok rest) : cs = ws ++ rest := by
  induction ws generalizing cs with
  | nil =>
    cases h
    rfl
  | cons w ws ih =>
    cases cs with
    | nil => cases h
    | cons c cs =>
      by_cases hc : c = w
      · rw [scanWord, if_pos hc] at h
        rw [hc, List.cons_append, ih h]
      · rw [scanWord, if_neg hc] at h
        cases h

theorem scanWord_eq_ok_iff {d : Defect} {ws cs rest : List Char} :
    scanWord d ws cs = .ok rest ↔ cs = ws ++ rest := by
  constructor
  · exact eq_append_of_scanWord
  · rintro rfl
    exact scanWord_append d ws rest

/-! ## 2. Escapes -/

/-- How many bytes a text takes in UTF-8. -/
def byteLength (cs : List Char) : Nat := cs.foldr (fun c n => c.utf8Size + n) 0

/-- Takes four hexadecimal digits.  A text of fewer than four bytes has ended, whatever the
bytes are. -/
def scanQuad : List Char → Scan Nat
  | a :: b :: c :: d :: rest =>
    match Text.hexQuad? a b c d with
    | some n => .ok (n, rest)
    | none => .error (.defect .badEscape)
  | cs => if byteLength cs < 4 then .error .ended else .error (.defect .badEscape)

/-- The first half of a pair that stands for a character beyond U+FFFF. -/
def isLeading (n : Nat) : Bool := decide (0xd800 ≤ n) && decide (n ≤ 0xdbff)

/-- The second half of such a pair. -/
def isTrailing (n : Nat) : Bool := decide (0xdc00 ≤ n) && decide (n ≤ 0xdfff)

/-- The character that two halves stand for. -/
def joinHalves (lead trail : Nat) : Char :=
  Char.ofNat (0x10000 + 0x400 * (lead - 0xd800) + (trail - 0xdc00))

/-- Takes the second half of a pair, which is an escape of its own. -/
def scanTrailing (lead : Nat) (cs : List Char) : Scan Char :=
  match scanWord .missingHalf ['\\', 'u'] cs with
  | .error f => .error f
  | .ok cs =>
    match scanQuad cs with
    | .error f => .error f
    | .ok (trail, rest) =>
      if isTrailing trail then .ok (joinHalves lead trail, rest) else .error (.defect .loneHalf)

/-- Takes the number of a character behind `\u`.  A half may not stand alone. -/
def scanNumbered (cs : List Char) : Scan Char :=
  match scanQuad cs with
  | .error f => .error f
  | .ok (n, rest) =>
    if isTrailing n then .error (.defect .loneHalf)
    else if isLeading n then scanTrailing n rest
    else .ok (Char.ofNat n, rest)

/-- The character that a letter stands for behind a backslash. -/
def shortEscape? : Char → Option Char
  | '"' => some '"'
  | '\\' => some '\\'
  | '/' => some '/'
  | 'b' => some '\x08'
  | 'f' => some '\x0c'
  | 'n' => some '\n'
  | 'r' => some '\r'
  | 't' => some '\t'
  | _ => none

/-- Takes what stands behind a backslash. -/
def scanEscape : List Char → Scan Char
  | [] => .error .ended
  | c :: cs =>
    if c = 'u' then scanNumbered cs
    else
      match shortEscape? c with
      | some d => .ok (d, cs)
      | none => .error (.defect .badEscape)

theorem exists_of_scanQuad {cs rest : List Char} {n : Nat} (h : scanQuad cs = .ok (n, rest)) :
    ∃ a b c d, cs = a :: b :: c :: d :: rest ∧ Text.hexQuad? a b c d = some n := by
  unfold scanQuad at h
  split at h
  · rename_i a b c d tail
    split at h
    · rename_i m hm
      simp only [Except.ok.injEq, Prod.mk.injEq] at h
      obtain ⟨rfl, rfl⟩ := h
      exact ⟨a, b, c, d, rfl, hm⟩
    · cases h
  · split at h <;> cases h

theorem exists_of_scanTrailing {lead : Nat} {cs rest : List Char} {c : Char}
    (h : scanTrailing lead cs = .ok (c, rest)) :
    ∃ trail mid, cs = '\\' :: 'u' :: mid ∧ scanQuad mid = .ok (trail, rest) ∧
      isTrailing trail = true ∧ c = joinHalves lead trail := by
  rw [scanTrailing] at h
  split at h
  · cases h
  · rename_i mid hword
    split at h
    · cases h
    · rename_i trail last hquad
      split at h
      · rename_i htrail
        simp only [Except.ok.injEq, Prod.mk.injEq] at h
        obtain ⟨rfl, rfl⟩ := h
        exact ⟨trail, mid, eq_append_of_scanWord hword, hquad, htrail, rfl⟩
      · cases h

/-- The number that was taken is that of a character, or of a first half with a second one behind
it. -/
theorem exists_of_scanNumbered {cs rest : List Char} {c : Char}
    (h : scanNumbered cs = .ok (c, rest)) :
    ∃ n mid, scanQuad cs = .ok (n, mid) ∧
      ((isLeading n = false ∧ isTrailing n = false ∧ c = Char.ofNat n ∧ rest = mid) ∨
        (isLeading n = true ∧ scanTrailing n mid = .ok (c, rest))) := by
  rw [scanNumbered] at h
  split at h
  · cases h
  · rename_i n mid hquad
    refine ⟨n, mid, hquad, ?_⟩
    split at h
    · cases h
    · rename_i htrail
      split at h
      · rename_i hlead
        exact Or.inr ⟨hlead, h⟩
      · rename_i hlead
        simp only [Except.ok.injEq, Prod.mk.injEq] at h
        obtain ⟨rfl, rfl⟩ := h
        exact Or.inl ⟨Bool.eq_false_iff.mpr hlead, Bool.eq_false_iff.mpr htrail, rfl, rfl⟩

theorem exists_of_scanEscape {cs rest : List Char} {c : Char}
    (h : scanEscape cs = .ok (c, rest)) :
    (∃ mid, cs = 'u' :: mid ∧ scanNumbered mid = .ok (c, rest)) ∨
      ∃ letter, cs = letter :: rest ∧ shortEscape? letter = some c := by
  rcases cs with _ | ⟨letter, cs⟩
  · cases h
  · rw [scanEscape] at h
    split at h
    · rename_i hu
      exact Or.inl ⟨cs, by rw [hu], h⟩
    · split at h
      · rename_i d hd
        simp only [Except.ok.injEq, Prod.mk.injEq] at h
        obtain ⟨rfl, rfl⟩ := h
        exact Or.inr ⟨letter, rfl, hd⟩
      · cases h

theorem length_of_scanQuad {cs rest : List Char} {n : Nat} (h : scanQuad cs = .ok (n, rest)) :
    cs.length = rest.length + 4 := by
  obtain ⟨a, b, c, d, rfl, -⟩ := exists_of_scanQuad h
  rfl

/-- **An escape takes at least one character.** -/
theorem length_lt_of_scanEscape {cs rest : List Char} {c : Char}
    (h : scanEscape cs = .ok (c, rest)) : rest.length < cs.length := by
  rcases exists_of_scanEscape h with ⟨mid, rfl, hnumber⟩ | ⟨letter, rfl, -⟩
  · obtain ⟨n, behind, hquad, ⟨-, -, -, rfl⟩ | ⟨-, htrailing⟩⟩ := exists_of_scanNumbered hnumber
    · have hlength := length_of_scanQuad hquad
      rw [List.length_cons]
      omega
    · obtain ⟨trail, last, rfl, hquad', -⟩ := exists_of_scanTrailing htrailing
      have hlength := length_of_scanQuad hquad
      have hlength' := length_of_scanQuad hquad'
      simp only [List.length_cons] at hlength ⊢
      omega
  · exact Nat.lt_succ_self _

/-! ## 3. Strings -/

/-- Takes the characters of a string up to its closing quote. -/
def scanChars : List Char → Scan (List Char)
  | [] => .error .ended
  | c :: cs =>
    if c = '"' then .ok ([], cs)
    else if c = '\\' then
      match _h : scanEscape cs with
      | .error f => .error f
      | .ok (d, rest) =>
        match scanChars rest with
        | .error f => .error f
        | .ok (ds, rest) => .ok (d :: ds, rest)
    else if c.toNat < 0x20 then .error (.defect .controlCharacter)
    else
      match scanChars cs with
      | .error f => .error f
      | .ok (ds, rest) => .ok (c :: ds, rest)
termination_by cs => cs.length
decreasing_by
  · have := length_lt_of_scanEscape _h
    simp only [List.length_cons]
    omega
  · simp

theorem scanChars_escape {cs rest : List Char} {d : Char} (h : scanEscape cs = .ok (d, rest)) :
    scanChars ('\\' :: cs) = (scanChars rest).map fun taken => (d :: taken.1, taken.2) := by
  rw [scanChars, if_neg (by decide), if_pos rfl]
  split
  · rename_i f hf
    rw [h] at hf
    cases hf
  · rename_i e last he
    rw [h] at he
    cases he
    cases scanChars rest with
    | error f => rfl
    | ok taken => rfl

theorem scanChars_escape_error {cs : List Char} {f : Fault} (h : scanEscape cs = .error f) :
    scanChars ('\\' :: cs) = .error f := by
  rw [scanChars, if_neg (by decide), if_pos rfl]
  split
  · rename_i g hg
    rw [h] at hg
    rw [Except.error.inj hg]
  · rename_i e last he
    rw [h] at he
    cases he

theorem scanChars_plain {c : Char} (quote : c ≠ '"') (backslash : c ≠ '\\')
    (printable : ¬ c.toNat < 0x20) (cs : List Char) :
    scanChars (c :: cs) = (scanChars cs).map fun taken => (c :: taken.1, taken.2) := by
  rw [scanChars, if_neg quote, if_neg backslash, if_neg printable]
  cases scanChars cs with
  | error f => rfl
  | ok taken => rfl

/-- Takes a string behind its opening quote. -/
def scanString (cs : List Char) : Scan String :=
  match scanChars cs with
  | .error f => .error f
  | .ok (ds, rest) => .ok (String.ofList ds, rest)

/-! ## 4. Numbers -/

/-- The cause of a failure where a digit is wanted: the text has ended, or something else
stands there. -/
def wantsMore : List Char → Fault
  | [] => .ended
  | _ :: _ => .defect .badNumber

/-- Takes one digit or more. -/
def scanDigits (cs : List Char) : Scan (List Char) :=
  match cs.takeWhile Char.isDigit with
  | [] => .error (wantsMore cs)
  | ds => .ok (ds, cs.dropWhile Char.isDigit)

/-- Takes the digits before the point: a single zero, or digits that do not begin with one. -/
def scanWhole (cs : List Char) : Scan (List Char) :=
  match scanDigits cs with
  | .error f => .error f
  | .ok (ds, rest) =>
    if ds.length ≠ 1 ∧ ds.head? = some '0' then .error (.defect .badNumber) else .ok (ds, rest)

/-- Takes a fraction, if there is one. -/
def scanFraction : List Char → Scan (Option (List Char))
  | [] => .ok (none, [])
  | c :: cs =>
    if c = '.' then
      match scanDigits cs with
      | .error f => .error f
      | .ok (ds, rest) => .ok (some ds, rest)
    else .ok (none, c :: cs)

/-- Takes a minus sign, if there is one; says whether there was. -/
def scanMinus : List Char → Bool × List Char
  | [] => (false, [])
  | c :: cs => if c = '-' then (true, cs) else (false, c :: cs)

/-- Takes either sign, if there is one; says whether it was a minus. -/
def scanSign : List Char → Bool × List Char
  | [] => (false, [])
  | c :: cs => if c = '+' then (false, cs) else scanMinus (c :: cs)

/-- Takes an exponent, if there is one. -/
def scanExponent : List Char → Scan (Option Int)
  | [] => .ok (none, [])
  | c :: cs =>
    if c = 'e' ∨ c = 'E' then
      let sign := scanSign cs
      match scanDigits sign.2 with
      | .error f => .error f
      | .ok (ds, rest) =>
        let n : Int := decimalFrom 0 ds
        .ok (some (if sign.1 then -n else n), rest)
    else .ok (none, c :: cs)

/-- Takes a number as it is written. -/
def scanLiteral (cs : List Char) : Except Fault (Literal × List Char) := do
  let (negative, cs) := scanMinus cs
  let (whole, cs) ← scanWhole cs
  let (fraction, cs) ← scanFraction cs
  let (exponent, cs) ← scanExponent cs
  .ok (⟨negative, whole, fraction, exponent⟩, cs)

/-- Takes a number, if it is not too large for a float. -/
def scanNumber (cs : List Char) : Scan Number :=
  match scanLiteral cs with
  | .error f => .error f
  | .ok (literal, rest) =>
    match literal.number? with
    | some n => .ok (n, rest)
    | none => .error (.defect .numberTooLarge)

/-! ## 5. The front of a value -/

/-- Takes as much of a value as tells its kind: a string, a number or a word as a whole, of an
array or object only the bracket. -/
def scanKind : List Char → Scan Kind
  | [] => .error .ended
  | c :: cs =>
    if c = '"' then (scanString cs).map fun (s, rest) => (.string s, rest)
    else if c = '[' then .ok (.sequence, cs)
    else if c = '{' then .ok (.map, cs)
    else if c = 'n' then (scanWord .badWord ['u', 'l', 'l'] cs).map fun rest => (.null, rest)
    else if c = 't' then (scanWord .badWord ['r', 'u', 'e'] cs).map fun rest => (.bool true, rest)
    else if c = 'f' then
      (scanWord .badWord ['a', 'l', 's', 'e'] cs).map fun rest => (.bool false, rest)
    else if c = '-' ∨ c.isDigit then
      (scanNumber (c :: cs)).map fun (n, rest) => (.number n, rest)
    else .error (.defect .noValue)

theorem exists_of_map_eq_ok {α β : Type} {scanned : Except Fault α} {f : α → β} {b : β}
    (h : scanned.map f = .ok b) : ∃ a, scanned = .ok a ∧ f a = b := by
  cases scanned with
  | error e => cases h
  | ok a => exact ⟨a, rfl, Except.ok.inj h⟩

/-- **A null is taken exactly where its word stands.** -/
theorem scanKind_eq_null_iff {cs rest : List Char} :
    scanKind cs = .ok (.null, rest) ↔ cs = ['n', 'u', 'l', 'l'] ++ rest := by
  constructor
  · intro h
    rcases cs with _ | ⟨c, cs⟩
    · cases h
    · rw [scanKind] at h
      split at h
      · obtain ⟨taken, -, hkind⟩ := exists_of_map_eq_ok h
        cases hkind
      · split at h
        · cases h
        · split at h
          · cases h
          · split at h
            · rename_i hn
              obtain ⟨last, hword, hrest⟩ := exists_of_map_eq_ok h
              simp only [Prod.mk.injEq, true_and] at hrest
              rw [hn, eq_append_of_scanWord hword, hrest]
              rfl
            · split at h
              · obtain ⟨taken, -, hkind⟩ := exists_of_map_eq_ok h
                cases hkind
              · split at h
                · obtain ⟨taken, -, hkind⟩ := exists_of_map_eq_ok h
                  cases hkind
                · split at h
                  · obtain ⟨taken, -, hkind⟩ := exists_of_map_eq_ok h
                    cases hkind
                  · cases h
  · rintro rfl
    rfl

end LoadingIndicator.Json
