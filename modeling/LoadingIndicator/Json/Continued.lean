/-
# Texts that go on

A scanner sees a text from its front, and more text may follow than there was.  What the scanner
took it takes again, and what broke a rule breaks it still: both were settled by characters that
had been read.  Only where the text ended is nothing settled.  `Persists` relates the result for a
text to the result for a longer one in just these three ways.

Numbers are the exception.  They end where no digit follows, so that a longer text may hold another
number; a scanner that stands in front of one does not persist.

Main statements:

* `persists_scanString`: strings, with all their escapes;
* `persists_scanKind`: the front of every value but a number.
-/
import LoadingIndicator.Json.Scanner

namespace LoadingIndicator.Json

/-! ## 1. Results that persist -/

/-- How the result for a text and the result for a longer one are related.  What was taken is taken
again, only that `longer` adds to the rest; what was refused is refused for the same cause; and
where the text had ended, which the cause `ended` says, nothing is settled. -/
inductive Persists {ε α : Type} (ended : ε) (longer : α → α) : Except ε α → Except ε α → Prop
  | taken (a : α) : Persists ended longer (.ok a) (.ok (longer a))
  | refused (e : ε) : Persists ended longer (.error e) (.error e)
  | unsettled (later : Except ε α) : Persists ended longer (.error ended) later

/-- What was taken, with more text behind the rest. -/
def withMore {α : Type} (more : List Char) (taken : α × List Char) : α × List Char :=
  (taken.1, taken.2 ++ more)

section

variable {ε α β : Type} {ended : ε} {longer : α → α} {longer' : β → β} {x y : Except ε α}

theorem Persists.elim (h : Persists ended longer x y) :
    (∃ a, x = .ok a ∧ y = .ok (longer a)) ∨ (∃ e, x = .error e ∧ y = .error e) ∨
      x = .error ended := by
  cases h with
  | taken a => exact Or.inl ⟨a, rfl, rfl⟩
  | refused e => exact Or.inr (Or.inl ⟨e, rfl, rfl⟩)
  | unsettled later => exact Or.inr (Or.inr rfl)

theorem Persists.front (a : α) (rest more : List Char) :
    Persists ended (withMore more) (.ok (a, rest)) (.ok (a, rest ++ more)) := .taken (a, rest)

theorem Persists.split {more : List Char} {x y : Except ε (α × List Char)}
    (h : Persists ended (withMore more) x y) :
    (∃ a rest, x = .ok (a, rest) ∧ y = .ok (a, rest ++ more)) ∨
      (∃ e, x = .error e ∧ y = .error e) ∨ x = .error ended := by
  rcases h.elim with ⟨⟨a, rest⟩, hx, hy⟩ | hrefused | hended
  · exact Or.inl ⟨a, rest, hx, hy⟩
  · exact Or.inr (Or.inl hrefused)
  · exact Or.inr (Or.inr hended)

/-- Steps that persist make a sequence that does. -/
theorem Persists.bind {f : α → Except ε β} (h : Persists ended longer x y)
    (hf : ∀ a, x = .ok a → Persists ended longer' (f a) (f (longer a))) :
    Persists ended longer' (x >>= f) (y >>= f) := by
  cases h with
  | taken a => exact hf a rfl
  | refused e => exact .refused e
  | unsettled later => exact .unsettled _

theorem Persists.map {f : α → β} (h : Persists ended longer x y)
    (hf : ∀ a, f (longer a) = longer' (f a)) : Persists ended longer' (x.map f) (y.map f) := by
  cases h with
  | taken a =>
    rw [Except.map, Except.map, hf]
    exact .taken (f a)
  | refused e => exact .refused e
  | unsettled later => exact .unsettled _

end

/-! ## 2. White space and words -/

theorem skipSpace_append_of_cons {c : Char} {cs rest : List Char} (h : skipSpace cs = c :: rest)
    (more : List Char) : skipSpace (cs ++ more) = c :: (rest ++ more) := by
  rw [skipSpace] at h
  rw [skipSpace, List.dropWhile_append, h]
  rfl

/-- A scanner that persists does so behind white space, if it needs a character. -/
theorem persists_skipSpace {ε α : Type} {ended : ε} {longer : α → α}
    (scan : List Char → Except ε α) {cs more : List Char} (hnil : scan [] = .error ended)
    (h : Persists ended longer (scan (skipSpace cs)) (scan (skipSpace cs ++ more))) :
    Persists ended longer (scan (skipSpace cs)) (scan (skipSpace (cs ++ more))) := by
  cases hskip : skipSpace cs with
  | nil =>
    rw [hnil]
    exact .unsettled _
  | cons c rest =>
    rw [hskip] at h
    rw [skipSpace_append_of_cons hskip]
    exact h

theorem persists_scanWord (d : Defect) (ws cs more : List Char) :
    Persists .ended (· ++ more) (scanWord d ws cs) (scanWord d ws (cs ++ more)) := by
  induction ws generalizing cs with
  | nil => exact .taken cs
  | cons w ws ih =>
    cases cs with
    | nil => exact .unsettled _
    | cons c cs =>
      rw [List.cons_append, scanWord, scanWord]
      by_cases hc : c = w
      · rw [if_pos hc, if_pos hc]
        exact ih cs
      · rw [if_neg hc, if_neg hc]
        exact .refused _

/-! ## 3. Escapes -/

theorem byteLength_append (cs ds : List Char) :
    byteLength (cs ++ ds) = byteLength cs + byteLength ds := by
  induction cs with
  | nil => exact (Nat.zero_add _).symm
  | cons c cs ih =>
    have hcons : ∀ xs : List Char, byteLength (c :: xs) = c.utf8Size + byteLength xs := fun _ => rfl
    rw [List.cons_append, hcons, hcons, ih, Nat.add_assoc]

theorem byteLength_eq_length {cs : List Char} (h : ∀ c ∈ cs, c.utf8Size = 1) :
    byteLength cs = cs.length := by
  induction cs with
  | nil => rfl
  | cons c cs ih =>
    have hcons : byteLength (c :: cs) = c.utf8Size + byteLength cs := rfl
    rw [hcons, h c (by simp), ih fun d hd => h d (by simp [hd]), List.length_cons, Nat.add_comm]

theorem utf8Size_of_hexQuad? {a b c d e : Char} {n : Nat} (h : Text.hexQuad? a b c d = some n)
    (he : e ∈ [a, b, c, d]) : e.utf8Size = 1 := by
  obtain ⟨m, hm⟩ := Text.exists_of_hexQuad? h e he
  have hascii : e.val.toNat < 0x80 := Text.ascii_of_hexValue? hm
  exact Char.utf8Size_eq_one_iff.mpr (UInt32.le_iff_toNat_le.mpr (Nat.le_of_lt_succ hascii))

theorem scanQuad_of_short {cs : List Char} (h : cs.length < 4) :
    scanQuad cs = if byteLength cs < 4 then .error .ended else .error (.defect .badEscape) := by
  rcases cs with _ | ⟨a, _ | ⟨b, _ | ⟨c, _ | ⟨d, cs⟩⟩⟩⟩
  · rfl
  · rfl
  · rfl
  · rfl
  · simp only [List.length_cons] at h
    omega

theorem exists_four {cs : List Char} (h : ¬ cs.length < 4) :
    ∃ a b c d rest, cs = a :: b :: c :: d :: rest := by
  match cs with
  | [] | [_] | [_, _] | [_, _, _] => exact absurd (by simp) h
  | a :: b :: c :: d :: rest => exact ⟨a, b, c, d, rest, rfl⟩

/-- Fewer than four characters that take four bytes or more are no digits, whatever follows. -/
theorem scanQuad_append_of_short {cs : List Char} (h : cs.length < 4)
    (hbytes : ¬ byteLength cs < 4) (more : List Char) :
    scanQuad (cs ++ more) = .error (.defect .badEscape) := by
  by_cases hlonger : (cs ++ more).length < 4
  · rw [scanQuad_of_short hlonger, if_neg]
    rw [byteLength_append]
    omega
  · unfold scanQuad
    split
    · rename_i a b c d rest hfront
      split
      · rename_i n hdigits
        -- the characters would be digits, of one byte each
        have hwithin : cs <+: [a, b, c, d] := by
          have hcs : cs <+: a :: b :: c :: d :: rest := by
            rw [← hfront]
            exact List.prefix_append cs more
          have hfour : [a, b, c, d] <+: a :: b :: c :: d :: rest := List.prefix_append _ rest
          refine List.prefix_of_prefix_length_le hcs hfour ?_
          simp only [List.length_cons, List.length_nil]
          omega
        have hlength := byteLength_eq_length fun e he =>
          utf8Size_of_hexQuad? hdigits (hwithin.subset he)
        omega
      · rfl
    · rename_i hno
      rw [if_neg]
      rw [byteLength_append]
      omega

theorem persists_scanQuad (cs more : List Char) :
    Persists .ended (withMore more) (scanQuad cs) (scanQuad (cs ++ more)) := by
  by_cases hshort : cs.length < 4
  · by_cases hbytes : byteLength cs < 4
    · rw [scanQuad_of_short hshort, if_pos hbytes]
      exact .unsettled _
    · rw [scanQuad_append_of_short hshort hbytes, scanQuad_of_short hshort, if_neg hbytes]
      exact .refused _
  · obtain ⟨a, b, c, d, rest, rfl⟩ := exists_four hshort
    simp only [List.cons_append]
    rw [scanQuad, scanQuad]
    cases Text.hexQuad? a b c d with
    | none => exact .refused _
    | some n => exact .front n rest more

theorem persists_scanTrailing (lead : Nat) (cs more : List Char) :
    Persists .ended (withMore more) (scanTrailing lead cs) (scanTrailing lead (cs ++ more)) := by
  rw [scanTrailing, scanTrailing]
  have hword := persists_scanWord .missingHalf ['\\', 'u'] cs more
  rcases hword.elim with ⟨mid, hx, hy⟩ | ⟨f, hx, hy⟩ | hx
  · rw [hx, hy]
    dsimp only
    rcases (persists_scanQuad mid more).split with ⟨trail, rest, hx, hy⟩ | ⟨f, hx, hy⟩ | hx
    · rw [hx, hy]
      dsimp only
      split
      · exact .front _ rest more
      · exact .refused _
    · rw [hx, hy]
      exact .refused f
    · rw [hx]
      exact .unsettled _
  · rw [hx, hy]
    exact .refused f
  · rw [hx]
    exact .unsettled _

theorem persists_scanNumbered (cs more : List Char) :
    Persists .ended (withMore more) (scanNumbered cs) (scanNumbered (cs ++ more)) := by
  rw [scanNumbered, scanNumbered]
  rcases (persists_scanQuad cs more).split with ⟨n, rest, hx, hy⟩ | ⟨f, hx, hy⟩ | hx
  · rw [hx, hy]
    dsimp only
    split
    · exact .refused _
    · split
      · exact persists_scanTrailing n rest more
      · exact .front _ rest more
  · rw [hx, hy]
    exact .refused f
  · rw [hx]
    exact .unsettled _

theorem persists_scanEscape (cs more : List Char) :
    Persists .ended (withMore more) (scanEscape cs) (scanEscape (cs ++ more)) := by
  cases cs with
  | nil => exact .unsettled _
  | cons c cs =>
    rw [List.cons_append, scanEscape, scanEscape]
    split
    · exact persists_scanNumbered cs more
    · cases shortEscape? c with
      | none => exact .refused _
      | some d => exact .front d cs more

/-! ## 4. Strings -/

theorem persists_scanChars (cs more : List Char) :
    Persists .ended (withMore more) (scanChars cs) (scanChars (cs ++ more)) := by
  -- on the length, since the rest behind an escape is shorter by more than one character
  induction hn : cs.length using Nat.strongRecOn generalizing cs with
  | ind n ih =>
    subst hn
    rcases cs with _ | ⟨c, cs⟩
    · rw [scanChars]
      exact .unsettled _
    · rw [List.cons_append]
      by_cases hquote : c = '"'
      · rw [hquote, scanChars, scanChars, if_pos rfl, if_pos rfl]
        exact .front [] cs more
      · by_cases hbackslash : c = '\\'
        · rw [hbackslash]
          rcases (persists_scanEscape cs more).split with ⟨d, rest, hx, hy⟩ | ⟨f, hx, hy⟩ | hx
          · have hshorter := length_lt_of_scanEscape hx
            rw [scanChars_escape hx, scanChars_escape hy]
            rw [List.length_cons] at ih
            exact (ih rest.length (by omega) rest rfl).map fun _ => rfl
          · rw [scanChars_escape_error hx, scanChars_escape_error hy]
            exact .refused f
          · rw [scanChars_escape_error hx]
            exact .unsettled _
        · by_cases hcontrol : c.toNat < 0x20
          · rw [scanChars, scanChars, if_neg hquote, if_neg hquote, if_neg hbackslash,
              if_neg hbackslash, if_pos hcontrol, if_pos hcontrol]
            exact .refused _
          · rw [scanChars_plain hquote hbackslash hcontrol,
              scanChars_plain hquote hbackslash hcontrol]
            exact (ih cs.length (by simp) cs rfl).map fun _ => rfl

/-- **A string, with all its escapes.** -/
theorem persists_scanString (cs more : List Char) :
    Persists .ended (withMore more) (scanString cs) (scanString (cs ++ more)) := by
  rw [scanString, scanString]
  rcases (persists_scanChars cs more).split with ⟨ds, rest, hx, hy⟩ | ⟨f, hx, hy⟩ | hx
  · rw [hx, hy]
    exact .front (String.ofList ds) rest more
  · rw [hx, hy]
    exact .refused f
  · rw [hx]
    exact .unsettled _

/-! ## 5. The front of a value -/

/-- Whether a text begins as a number does. -/
def BeginsNumber (cs : List Char) : Prop :=
  ∃ c rest, cs = c :: rest ∧ (c = '-' ∨ c.isDigit = true)

/-- **The front of every value but a number.** -/
theorem persists_scanKind {cs : List Char} (h : ¬ BeginsNumber cs) (more : List Char) :
    Persists .ended (withMore more) (scanKind cs) (scanKind (cs ++ more)) := by
  rcases cs with _ | ⟨c, cs⟩
  · exact .unsettled _
  · have hnumber : ¬ (c = '-' ∨ c.isDigit = true) := fun hc => h ⟨c, cs, rfl, hc⟩
    rw [List.cons_append, scanKind, scanKind]
    split
    · exact (persists_scanString cs more).map fun _ => rfl
    · split
      · exact .front _ cs more
      · split
        · exact .front _ cs more
        · split
          · exact (persists_scanWord .badWord _ cs more).map fun _ => rfl
          · split
            · exact (persists_scanWord .badWord _ cs more).map fun _ => rfl
            · split
              · exact (persists_scanWord .badWord _ cs more).map fun _ => rfl
              · exact .refused _

end LoadingIndicator.Json
