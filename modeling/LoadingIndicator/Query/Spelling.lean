/-
# The spellings of a query

A list of named values can be written as a query in many ways.  A character stands for itself
unless it has a meaning of its own, a space may be a plus sign, and every character may be the
escapes of its bytes.  An equals sign parts a name from its value and may be left out before an
empty value; parts are joined by `&` with any number of empty parts among them; one question
mark may stand in front of all.

Main statements:

* `formBytes_of_spells`: a spelled text stands for the bytes of the text;
* `pairs_of_spellsQuery`: each spelling of a list of named values is read as that list;
* `exists_spellsQuery`: every list of named values has a spelling.
-/
import LoadingIndicator.Query.Form

namespace LoadingIndicator.Query

open Text (hexPair?)

/-! ## 1. Characters and texts -/

/-- Bytes as escapes, with digits of either case. -/
inductive SpellsBytes : List UInt8 → List Char → Prop
  | nil : SpellsBytes [] []
  | cons {b : UInt8} {bs : List UInt8} {high low : Char} {rest : List Char}
    (digits : hexPair? high low = some b.toNat) (tail : SpellsBytes bs rest) :
    SpellsBytes (b :: bs) ('%' :: high :: low :: rest)

/-- One way to write a character where those in `reserved` have a meaning of their own. -/
inductive SpellsChar (reserved : List Char) : Char → List Char → Prop
  | plain {c : Char} (free : c ∉ reserved) : SpellsChar reserved c [c]
  | plus : SpellsChar reserved ' ' ['+']
  | escaped {c : Char} {spelled : List Char}
    (bytes : SpellsBytes (String.utf8EncodeChar c) spelled) : SpellsChar reserved c spelled

/-- One way to write a text. -/
inductive Spells (reserved : List Char) : List Char → List Char → Prop
  | nil : Spells reserved [] []
  | cons {c : Char} {cs spelled rest : List Char} (head : SpellsChar reserved c spelled)
    (tail : Spells reserved cs rest) : Spells reserved (c :: cs) (spelled ++ rest)

/-- The characters with a meaning of their own in a value. -/
def reservedInValue : List Char := ['&', '+', '%']

/-- The characters with a meaning of their own in a name. -/
def reservedInName : List Char := ['=', '&', '+', '%']

/-! ## 2. Pairs and queries -/

/-- One way to write a name and its value. -/
inductive SpellsPair : String × String → List Char → Prop
  | joined {name value : String} {n v : List Char} (left : Spells reservedInName name.toList n)
    (right : Spells reservedInValue value.toList v) : SpellsPair (name, value) (n ++ '=' :: v)
  | bare {name : String} {n : List Char} (named : name ≠ "")
    (left : Spells reservedInName name.toList n) : SpellsPair (name, "") n

/-- One way to write named values as parts, some of which may be empty. -/
inductive SpellsParts : List (String × String) → List (List Char) → Prop
  | nil : SpellsParts [] []
  | gap {ps : List (String × String)} {parts : List (List Char)} (tail : SpellsParts ps parts) :
    SpellsParts ps ([] :: parts)
  | cons {p : String × String} {ps : List (String × String)} {part : List Char}
    {parts : List (List Char)} (head : SpellsPair p part) (tail : SpellsParts ps parts) :
    SpellsParts (p :: ps) (part :: parts)

/-- Parts joined by `&`. -/
def joinParts : List (List Char) → List Char
  | [] => []
  | [part] => part
  | part :: parts => part ++ '&' :: joinParts parts

/-- One way to write named values as a query.  A question mark in front is no part of what it
marks, so text that begins with one needs another. -/
inductive SpellsQuery (ps : List (String × String)) : List Char → Prop
  | marked {parts : List (List Char)} (written : SpellsParts ps parts) :
    SpellsQuery ps ('?' :: joinParts parts)
  | unmarked {parts : List (List Char)} (written : SpellsParts ps parts)
    (start : (joinParts parts).head? ≠ some '?') : SpellsQuery ps (joinParts parts)

/-! ## 3. Texts are read -/

theorem formBytes_of_spellsBytes {bs : List UInt8} {spelled : List Char}
    (h : SpellsBytes bs spelled) (cs : List Char) :
    formBytes (spelled ++ cs) = bs ++ formBytes cs := by
  induction h with
  | nil => rfl
  | @cons b bs high low rest digits _ ih =>
    simp only [List.cons_append]
    rw [formBytes, digits, ih]
    simp

theorem formBytes_plain {c : Char} (hplus : c ≠ '+') (hpercent : c ≠ '%') (cs : List Char) :
    formBytes (c :: cs) = String.utf8EncodeChar c ++ formBytes cs := by
  rw [formBytes]
  · exact fun h => absurd h hplus
  · exact fun _ _ _ h => absurd h hpercent

theorem formBytes_of_spellsChar {reserved : List Char} (hplus : '+' ∈ reserved)
    (hpercent : '%' ∈ reserved) {c : Char} {spelled : List Char}
    (h : SpellsChar reserved c spelled) (cs : List Char) :
    formBytes (spelled ++ cs) = String.utf8EncodeChar c ++ formBytes cs := by
  cases h with
  | plain free =>
    refine formBytes_plain ?_ ?_ cs
    · rintro rfl
      exact free hplus
    · rintro rfl
      exact free hpercent
  | plus =>
    rw [List.singleton_append, formBytes]
    rfl
  | escaped bytes => exact formBytes_of_spellsBytes bytes cs

/-- **A spelled text stands for the bytes of the text.** -/
theorem formBytes_of_spells {reserved : List Char} (hplus : '+' ∈ reserved)
    (hpercent : '%' ∈ reserved) {cs spelled : List Char} (h : Spells reserved cs spelled) :
    formBytes spelled = cs.flatMap String.utf8EncodeChar := by
  induction h with
  | nil => rfl
  | cons head _ ih => rw [formBytes_of_spellsChar hplus hpercent head, ih, List.flatMap_cons]

/-- A spelled text is read as the text. -/
theorem decode_of_spells {reserved : List Char} (hplus : '+' ∈ reserved)
    (hpercent : '%' ∈ reserved) {s : String} {spelled : List Char}
    (h : Spells reserved s.toList spelled) : decode spelled = s := by
  rw [decode, formBytes_of_spells hplus hpercent h]
  exact Text.Utf8.decode_bytes s

/-! ## 4. Nothing reserved is written -/

theorem ne_of_hexPair? {high low d : Char} {n : Nat} (h : hexPair? high low = some n)
    (hd : Text.hexValue? d = none) : high ≠ d ∧ low ≠ d := by
  constructor
  · rintro rfl
    simp [hexPair?, hd] at h
  · rintro rfl
    simp [hexPair?, hd] at h

/-- A separator is reserved, and neither what an escape begins with nor one of its digits. -/
structure Separates (reserved : List Char) (d : Char) : Prop where
  mem : d ∈ reserved
  ne_percent : d ≠ '%'
  ne_plus : d ≠ '+'
  no_digit : Text.hexValue? d = none

theorem not_mem_of_spellsBytes {d : Char} (hpercent : d ≠ '%') (hdigit : Text.hexValue? d = none)
    {bs : List UInt8} {spelled : List Char} (h : SpellsBytes bs spelled) : d ∉ spelled := by
  induction h with
  | nil => simp
  | cons digits _ ih =>
    obtain ⟨hhigh, hlow⟩ := ne_of_hexPair? digits hdigit
    simp only [List.mem_cons, not_or]
    exact ⟨hpercent, hhigh.symm, hlow.symm, ih⟩

/-- **A spelled text holds no separator.** -/
theorem not_mem_of_spells {reserved : List Char} {d : Char} (hd : Separates reserved d)
    {cs spelled : List Char} (h : Spells reserved cs spelled) : d ∉ spelled := by
  induction h with
  | nil => simp
  | cons head _ ih =>
    rw [List.mem_append, not_or]
    refine ⟨?_, ih⟩
    cases head with
    | plain free =>
      rw [List.mem_singleton]
      rintro rfl
      exact free hd.mem
    | plus =>
      rw [List.mem_singleton]
      exact hd.ne_plus
    | escaped bytes => exact not_mem_of_spellsBytes hd.ne_percent hd.no_digit bytes

theorem separates_equals : Separates reservedInName '=' :=
  ⟨by decide, by decide, by decide, by decide⟩

theorem separates_amp_name : Separates reservedInName '&' :=
  ⟨by decide, by decide, by decide, by decide⟩

theorem separates_amp_value : Separates reservedInValue '&' :=
  ⟨by decide, by decide, by decide, by decide⟩

/-! ## 5. Pairs and queries are read -/

theorem splitFirst_append {sep : Char} {xs : List Char} (h : sep ∉ xs) (ys : List Char) :
    splitFirst sep (xs ++ sep :: ys) = (xs, ys) := by
  induction xs with
  | nil => simp [splitFirst]
  | cons x xs ih =>
    simp only [List.mem_cons, not_or] at h
    have hx : (x != sep) = true := bne_iff_ne.mpr (Ne.symm h.1)
    have ih' := ih h.2
    simp only [splitFirst, Prod.mk.injEq] at ih'
    simp only [splitFirst, List.cons_append, List.takeWhile_cons, List.dropWhile_cons, hx, if_true,
      ih'.1, ih'.2]

theorem splitFirst_of_not_mem {sep : Char} {xs : List Char} (h : sep ∉ xs) :
    splitFirst sep xs = (xs, []) := by
  induction xs with
  | nil => rfl
  | cons x xs ih =>
    simp only [List.mem_cons, not_or] at h
    have hx : (x != sep) = true := bne_iff_ne.mpr (Ne.symm h.1)
    have ih' := ih h.2
    simp only [splitFirst, Prod.mk.injEq] at ih'
    simp only [splitFirst, List.takeWhile_cons, List.dropWhile_cons, hx, if_true, ih'.1, ih'.2]

theorem splitAll_of_not_mem {sep : Char} {xs : List Char} (h : sep ∉ xs) :
    splitAll sep xs = [xs] := by
  induction xs with
  | nil => rfl
  | cons x xs ih =>
    simp only [List.mem_cons, not_or] at h
    rw [splitAll, if_neg (Ne.symm h.1), ih h.2]

theorem pairsOf_part {part : List Char} (h : '&' ∉ part) (hne : part ≠ []) :
    pairsOf part = [decodePart part] := by
  have hfull : part.isEmpty = false := by simpa [List.isEmpty_iff] using hne
  simp [pairsOf, splitAll_of_not_mem h, hfull]

theorem decodePart_of_spellsPair {p : String × String} {part : List Char}
    (h : SpellsPair p part) : decodePart part = p := by
  cases h with
  | @joined name value n v left right =>
    rw [decodePart, splitFirst_append (not_mem_of_spells separates_equals left)]
    simp only
    rw [decode_of_spells (by decide) (by decide) left,
      decode_of_spells (by decide) (by decide) right]
  | @bare name n named left =>
    rw [decodePart, splitFirst_of_not_mem (not_mem_of_spells separates_equals left)]
    simp only
    rw [decode_of_spells (by decide) (by decide) left]
    rfl

theorem not_mem_of_spellsPair {p : String × String} {part : List Char} (h : SpellsPair p part) :
    '&' ∉ part := by
  cases h with
  | joined left right =>
    simp only [List.mem_append, List.mem_cons, not_or]
    exact ⟨not_mem_of_spells separates_amp_name left, by decide,
      not_mem_of_spells separates_amp_value right⟩
  | bare _ left => exact not_mem_of_spells separates_amp_name left

theorem ne_nil_of_spellsPair {p : String × String} {part : List Char} (h : SpellsPair p part) :
    part ≠ [] := by
  cases h with
  | joined => simp
  | @bare name n named left =>
    rintro rfl
    have hname := decode_of_spells (by decide) (by decide) left
    exact named hname.symm

/-- Parts that are joined are read as the pairs they spell. -/
theorem pairsOf_joinParts {ps : List (String × String)} {parts : List (List Char)}
    (h : SpellsParts ps parts) : pairsOf (joinParts parts) = ps := by
  induction h with
  | nil => rfl
  | @gap ps parts _ ih =>
    cases parts with
    | nil => exact ih
    | cons part parts =>
      -- a gap is an empty part in front of a separator
      have happ := pairsOf_append_amp [] (joinParts (part :: parts))
      rw [joinParts]
      · exact happ.trans ih
      · simp
  | @cons p ps part parts head _ ih =>
    have hpart : pairsOf part = [p] := by
      rw [pairsOf_part (not_mem_of_spellsPair head) (ne_nil_of_spellsPair head),
        decodePart_of_spellsPair head]
    cases parts with
    | nil =>
      have hnil : ps = [] := by rw [← ih]; rfl
      rw [joinParts, hpart, hnil]
    | cons part' parts =>
      rw [joinParts]
      · rw [pairsOf_append_amp, hpart, ih]
        rfl
      · simp

/-- **Each spelling of a list of named values is read as that list.** -/
theorem pairs_of_spellsQuery {ps : List (String × String)} {text : List Char}
    (h : SpellsQuery ps text) : pairs (String.ofList text) = ps := by
  rw [pairs, String.toList_ofList]
  cases h with
  | marked written => exact pairsOf_joinParts written
  | @unmarked parts written start =>
    rw [withoutMark_of_head start]
    exact pairsOf_joinParts written

/-! ## 6. Everything can be written -/

theorem exists_spellsBytes (bs : List UInt8) : ∃ spelled, SpellsBytes bs spelled := by
  induction bs with
  | nil => exact ⟨[], .nil⟩
  | cons b bs ih =>
    obtain ⟨rest, hrest⟩ := ih
    have hb : b.toNat < 256 := UInt8.toNat_lt b
    have hdiv : b.toNat / 16 < 16 := by omega
    have hmod : b.toNat % 16 < 16 := by omega
    have hhigh := Text.hexValue?_digitChar hdiv
    have hlow := Text.hexValue?_digitChar hmod
    have hpair : hexPair? (b.toNat / 16).digitChar (b.toNat % 16).digitChar = some b.toNat := by
      simp only [hexPair?, hhigh, hlow, Option.bind_eq_bind, Option.bind_some, Option.pure_def]
      rw [Nat.div_add_mod]
    exact ⟨_, .cons hpair hrest⟩

/-- Every text can be written, whatever is reserved. -/
theorem exists_spells (reserved cs : List Char) : ∃ spelled, Spells reserved cs spelled := by
  induction cs with
  | nil => exact ⟨[], .nil⟩
  | cons c cs ih =>
    obtain ⟨rest, hrest⟩ := ih
    obtain ⟨spelled, hspelled⟩ := exists_spellsBytes (String.utf8EncodeChar c)
    exact ⟨spelled ++ rest, .cons (.escaped hspelled) hrest⟩

/-- A text without reserved characters can be written as it is. -/
theorem spells_self {reserved cs : List Char} (h : cs.all (! reserved.contains ·) = true) :
    Spells reserved cs cs := by
  induction cs with
  | nil => exact .nil
  | cons c cs ih =>
    simp only [List.all_cons, Bool.and_eq_true, Bool.not_eq_true', List.contains_eq_mem,
      decide_eq_false_iff_not] at h
    have htail : Spells reserved cs cs := by
      refine ih ?_
      simpa using h.2
    exact .cons (.plain h.1) htail

theorem exists_spellsParts (ps : List (String × String)) : ∃ parts, SpellsParts ps parts := by
  induction ps with
  | nil => exact ⟨[], .nil⟩
  | cons p ps ih =>
    obtain ⟨parts, hparts⟩ := ih
    obtain ⟨n, hn⟩ := exists_spells reservedInName p.1.toList
    obtain ⟨v, hv⟩ := exists_spells reservedInValue p.2.toList
    exact ⟨(n ++ '=' :: v) :: parts, .cons (.joined hn hv) hparts⟩

/-- **Every list of named values has a spelling.** -/
theorem exists_spellsQuery (ps : List (String × String)) :
    ∃ text : String, SpellsQuery ps text.toList := by
  obtain ⟨parts, hparts⟩ := exists_spellsParts ps
  refine ⟨String.ofList ('?' :: joinParts parts), ?_⟩
  rw [String.toList_ofList]
  exact .marked hparts

end LoadingIndicator.Query
