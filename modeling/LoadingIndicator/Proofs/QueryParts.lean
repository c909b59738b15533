/-
# The parts of a query

A query is split into its parts before anything in it is decoded, and each part is decoded by
itself.  So a part means the same wherever it stands, however broken it is or its neighbours are.
A percent sign at the end of a part does not take the digits that the next one begins with, and
bytes that begin a character there are not joined by those that would end it.

For the page this means that two things do not matter: what stands behind the first pair that is
named `size`, and parts under other names, wherever they stand.

Main statement:

* `query_compositional`: the value of a joined query, and what mounting does not depend on.
-/
import LoadingIndicator.Gallery
import LoadingIndicator.Query.Spelling

namespace LoadingIndicator.Query

/-! ## 1. Marked queries -/

/-- A question mark in front is left out, and only one. -/
theorem pairs_mark (q : String) : pairs ("?" ++ q) = pairsOf q.toList := by
  have hmark : ("?" ++ q).toList = '?' :: q.toList := String.toList_append
  rw [pairs, hmark, withoutMark]

theorem pairs_unmarked {q : String} (h : q.toList.head? ≠ some '?') :
    pairs q = pairs ("?" ++ q) := by
  rw [pairs_mark, pairs, withoutMark_of_head h]

/-- **The pairs of two texts that are joined are those of the one and then those of the other.** -/
theorem pairs_append_amp (p q : String) :
    pairs ("?" ++ (p ++ "&" ++ q)) = pairs ("?" ++ p) ++ pairs ("?" ++ q) := by
  have hjoin : (p ++ "&" ++ q).toList = p.toList ++ '&' :: q.toList := by
    rw [String.toList_append, String.toList_append, List.append_assoc]
    rfl
  rw [pairs_mark, pairs_mark, pairs_mark, hjoin, pairsOf_append_amp]

/-- **The first of two texts that are joined decides**, if it has the name at all. -/
theorem get?_append_amp (p q name : String) :
    get? ("?" ++ (p ++ "&" ++ q)) name =
      (get? ("?" ++ p) name).or (get? ("?" ++ q) name) := by
  rw [get?, pairs_append_amp, lookup?_append]
  rfl

/-- **A part is decoded by itself**, an empty one to nothing. -/
theorem pairs_of_part {part : String} (hpart : '&' ∉ part.toList) :
    pairs ("?" ++ part) = if part = "" then [] else [decodePart part.toList] := by
  rw [pairs_mark]
  split
  · rename_i hempty
    rw [hempty]
    rfl
  · rename_i hne
    exact pairsOf_part hpart (fun hnil => hne (String.toList_eq_nil_iff.mp hnil))

theorem get?_of_part {part name : String} (hpart : '&' ∉ part.toList)
    (hname : (decodePart part.toList).1 ≠ name) : get? ("?" ++ part) name = none := by
  rw [get?, pairs_of_part hpart]
  split
  · rfl
  · rw [lookup?, List.find?_cons, beq_false_of_ne hname]
    rfl

end LoadingIndicator.Query

namespace LoadingIndicator.Gallery

open Query

/-! ## 2. What mounting makes of a query -/

/-- What can be seen of mounting: the page and the lines logged. -/
def answer (query : String) : Markup.Node × List Log.Line :=
  ((mount (some query)).page, mountLogs (some query))

/-- **Mounting depends on the value of `size` alone.** -/
theorem answer_congr {p q : String} (h : get? p "size" = get? q "size") : answer p = answer q := by
  have hrequested : requested (some p) = requested (some q) := by
    rw [requested, requested, Option.bind_some, Option.bind_some, h]
  rw [answer, answer, mount, mount, mountLogs, mountLogs, hrequested]

/-- **A query is read part by part**, whatever is in it.  The value of a name in a joined text is
that of the first text if it has one, and else that of the second, since the pairs are those of the
one and then those of the other, and each part is decoded by itself.  So mounting does the same
whatever stands behind a text that has `size`, and with or without a part under another name, in
front, in between or behind.  A question mark in front makes no difference to a text that does not
begin with one. -/
theorem query_compositional :
    (∀ p q name : String, get? ("?" ++ (p ++ "&" ++ q)) name =
        (get? ("?" ++ p) name).or (get? ("?" ++ q) name)) ∧
      (∀ p q : String,
        pairs ("?" ++ (p ++ "&" ++ q)) = pairs ("?" ++ p) ++ pairs ("?" ++ q)) ∧
      (∀ part : String, '&' ∉ part.toList →
        pairs ("?" ++ part) = if part = "" then [] else [decodePart part.toList]) ∧
      (∀ p q : String, get? ("?" ++ p) "size" ≠ none →
        answer ("?" ++ (p ++ "&" ++ q)) = answer ("?" ++ p)) ∧
      (∀ part : String, '&' ∉ part.toList → (decodePart part.toList).1 ≠ "size" →
        ∀ p q : String,
          answer ("?" ++ (part ++ "&" ++ q)) = answer ("?" ++ q) ∧
            answer ("?" ++ (p ++ "&" ++ (part ++ "&" ++ q))) = answer ("?" ++ (p ++ "&" ++ q)) ∧
            answer ("?" ++ (p ++ "&" ++ part)) = answer ("?" ++ p)) ∧
      ∀ q : String, q.toList.head? ≠ some '?' → answer q = answer ("?" ++ q) := by
  refine ⟨get?_append_amp, pairs_append_amp, fun part => pairs_of_part, ?_, ?_, ?_⟩
  · intro p q hp
    obtain ⟨v, hv⟩ := Option.ne_none_iff_exists'.mp hp
    refine answer_congr ?_
    rw [get?_append_amp, hv, Option.some_or]
  · intro part hpart hname p q
    have hnone := get?_of_part hpart hname
    refine ⟨answer_congr ?_, answer_congr ?_, answer_congr ?_⟩
    · rw [get?_append_amp, hnone, Option.none_or]
    · rw [get?_append_amp, get?_append_amp, get?_append_amp, hnone, Option.none_or]
    · rw [get?_append_amp, hnone, Option.or_none]
  · intro q hq
    refine answer_congr ?_
    rw [get?, get?, pairs_unmarked hq]

/-- The first byte of a character in front of `size`, a percent sign in front of digits, a second
value, and a second question mark. -/
theorem query_compositional_broken :
    answer ("?" ++ ("%E2" ++ "&" ++ "size=sm")) = answer ("?" ++ "size=sm") ∧
      get? ("?" ++ ("a=%" ++ "&" ++ "size=%73m")) "size" = some "sm" ∧
      answer ("?" ++ ("size=lg" ++ "&" ++ "size=%82%AC=&?")) = answer ("?" ++ "size=lg") ∧
      answer "size=lg" = answer ("?" ++ "size=lg") ∧
      get? "??size=lg" "size" = none := by
  obtain ⟨hvalue, -, -, hbehind, hpart, hmark⟩ := query_compositional
  have hbyte : (decodePart "%E2".toList).1 ≠ "size" := by decide +kernel
  have hlarge : get? ("?" ++ "size=lg") "size" ≠ none := by decide +kernel
  have hnone : get? ("?" ++ "a=%") "size" = none := by decide +kernel
  have hsmall : get? ("?" ++ "size=%73m") "size" = some "sm" := by decide +kernel
  have hsecond : get? "??size=lg" "size" = none := by decide +kernel
  refine ⟨?_, ?_, hbehind _ _ hlarge, hmark _ (by decide), hsecond⟩
  · exact (hpart "%E2" (by decide) hbyte "" "size=sm").1
  · rw [hvalue, hnone, Option.none_or, hsmall]

end LoadingIndicator.Gallery
