/-
# A text that is cut off

A text may arrive in pieces, and whoever waits for the rest has to know that a rest is missing.  So
every front of a text that is read must be told apart from a wrong text, wherever the cut falls: in
the white space, in a name, in an escape, between two marks, in the word for null.

No cut has to be looked at for this.  A front that was refused for another cause would stay refused
when the rest is added, and one that was read as another size would stay so too.

Main statement:

* `cut_recognised`: which texts are read, and what is read of each of their fronts.
-/
import LoadingIndicator.Size.Continued

namespace LoadingIndicator.Size

open Json (Spaces Spells isSpace skipSpace spaces_nil)

/-! ## 1. The value in a text -/

/-- Whether a text is a value that is read as the size, with no white space around it. -/
def IsValue (z : Size) (value : List Char) : Prop :=
  ∃ spelled, Form (literal spelled) value ∧ Spells z.name.toList spelled

/-- Whether a text is a value that is read as the size, with white space on both sides. -/
structure Parted (text : String) (z : Size) (before value after : List Char) : Prop where
  parts : text.toList = before ++ value ++ after
  blank_before : Spaces before
  blank_after : Spaces after
  is_size : IsValue z value

/-- **What is read as a size is its value in white space**, and nothing else is. -/
theorem decodeText_eq_ok_iff_parted {text : String} {z : Size} :
    decodeText text = .ok z ↔ ∃ before value after, Parted text z before value after := by
  rw [decodeText_eq_ok_iff]
  constructor
  · rintro ⟨before, spelled, value, after, htext, hbefore, hafter, hform, hspells⟩
    exact ⟨before, value, after, htext, hbefore, hafter, spelled, hform, hspells⟩
  · rintro ⟨before, value, after, htext, hbefore, hafter, spelled, hform, hspells⟩
    exact ⟨before, spelled, value, after, htext, hbefore, hafter, hform, hspells⟩

theorem exists_last_of_form {spelled form : List Char} (h : Form (literal spelled) form) :
    ∃ cs c, form = cs ++ [c] ∧ isSpace c = false := by
  cases h with
  | alone => exact ⟨'"' :: spelled, '"', rfl, by decide⟩
  | entry => exact ⟨_, '}', rfl, by decide⟩

/-- **Two kinds of cuts**: in the white space behind the value, or before the value has ended.  Of
the second kind something other than white space is missing. -/
theorem cut_cases {before value after part rest : List Char} {z : Size} (hvalue : IsValue z value)
    (happ : before ++ value ++ after = part ++ rest) :
    (∃ kept, part = before ++ value ++ kept ∧ after = kept ++ rest) ∨
      (¬ before ++ value <+: part ∧ ¬ Spaces rest) := by
  obtain ⟨spelled, hform, -⟩ := hvalue
  obtain ⟨cs, c, rfl, hc⟩ := exists_last_of_form hform
  rcases List.append_eq_append_iff.mp happ with ⟨kept, hpart, hafter⟩ | ⟨lost, hfront, hrest⟩
  · exact Or.inl ⟨kept, hpart, hafter⟩
  · rcases List.eq_nil_or_concat lost with rfl | ⟨lost, d, rfl⟩
    · rw [List.append_nil] at hfront
      exact Or.inl ⟨[], by rw [List.append_nil, hfront], hrest.symm⟩
    · refine Or.inr ⟨?_, ?_⟩
      · intro hwithin
        have hlength := hwithin.length_le
        rw [hfront, List.length_append, List.length_concat] at hlength
        omega
      · intro hspaces
        -- the last character that is missing of the value is its last one
        have hlast : before ++ cs ++ [c] = part ++ lost ++ [d] := by simpa using hfront
        have hcd : c = d := List.singleton_inj.mp (List.append_inj' hlast rfl).2
        have hspace : isSpace c = true := hspaces c (by rw [hrest, hcd]; simp)
        rw [hc] at hspace
        cases hspace

/-! ## 2. Fronts of a text -/

/-- A front of a text that is read is read as the same size, or it has ended. -/
theorem decodeText_front {part rest : String} {z : Size} (h : decodeText (part ++ rest) = .ok z) :
    decodeText part = .ok z ∨ decodeText part = .error (.text .ended) := by
  cases hpart : decodeText part with
  | ok y =>
    rw [decodeText_append_of_ok hpart] at h
    split at h
    · rw [Except.ok.inj h]
      exact Or.inl rfl
    · cases h
  | error e =>
    by_cases he : e = .text .ended
    · rw [he]
      exact Or.inr rfl
    · exact absurd h (decodeText_append_ne_ok hpart he rest z)

/-- **Truncation is recognised as truncation.**  A text is read as a size exactly if it is white
space, a value and white space; and each of its fronts is read as the same size or is reported to
have ended.  A front is read exactly if the whole value is in it, that is, if white space alone is
missing. -/
theorem cut_recognised (text : String) (z : Size) :
    (decodeText text = .ok z ↔ ∃ before value after, Parted text z before value after) ∧
      ∀ before value after : List Char, Parted text z before value after →
        ∀ part rest : String, text = part ++ rest →
          (decodeText part = .ok z ∨ decodeText part = .error (.text .ended)) ∧
            (decodeText part = .ok z ↔ before ++ value <+: part.toList) ∧
            (decodeText part = .ok z ↔ Spaces rest.toList) := by
  refine ⟨decodeText_eq_ok_iff_parted, ?_⟩
  intro before value after hparted part rest hcut
  have hread : decodeText (part ++ rest) = .ok z := by
    rw [← hcut]
    exact decodeText_eq_ok_iff_parted.mpr ⟨before, value, after, hparted⟩
  have happ : before ++ value ++ after = part.toList ++ rest.toList := by
    rw [← hparted.parts, hcut, String.toList_append]
  rcases cut_cases hparted.is_size happ with ⟨kept, hpart, hkept⟩ | ⟨hwithin, hspaces⟩
  · obtain ⟨hspace, hmissing⟩ := List.forall_mem_append.mp (hkept ▸ hparted.blank_after)
    have hfront : decodeText part = .ok z := decodeText_eq_ok_iff_parted.mpr
      ⟨before, value, kept, hpart, hparted.blank_before, hspace, hparted.is_size⟩
    have hwhole : before ++ value <+: part.toList := ⟨kept, hpart.symm⟩
    exact ⟨Or.inl hfront, iff_of_true hfront hwhole, iff_of_true hfront hmissing⟩
  · have hfront : decodeText part ≠ .ok z := by
      intro hpart
      rw [decodeText_append_of_ok hpart] at hread
      split at hread
      · rename_i hempty
        exact hspaces (Json.skipSpace_eq_nil_iff.mp (List.isEmpty_iff.mp hempty))
      · cases hread
    exact ⟨decodeText_front hread, iff_of_false hfront hwithin, iff_of_false hfront hspaces⟩

/-- A cut within an escape is seen to be one; a cut in front of the last blank does no harm. -/
theorem cut_recognised_escape :
    decodeText " \x7b\"l\\u0067\":null\x7d " = .ok .large ∧
      decodeText " \x7b\"l\\u00" = .error (.text .ended) ∧
      decodeText " \x7b\"l\\u0067\":null\x7d" = .ok .large := by
  have hspells : Spells Size.large.name.toList (['l'] ++ (['\\', 'u', '0', '0', '6', '7'] ++ [])) :=
    .cons (.plain (by decide) (by decide) (by decide))
      (.cons (Json.spellsChar_of_hexPair? (by decide)) .nil)
  have hblank : Spaces [' '] := List.all_eq_true.mp (by decide)
  have hparted : Parted " \x7b\"l\\u0067\":null\x7d " .large [' '] _ [' '] :=
    ⟨rfl, hblank, hblank, _, .entry spaces_nil spaces_nil spaces_nil spaces_nil, hspells⟩
  obtain ⟨hread, hfronts⟩ := cut_recognised " \x7b\"l\\u0067\":null\x7d " .large
  obtain ⟨hcut, -, hmissing⟩ :=
    hfronts _ _ _ hparted " \x7b\"l\\u00" "67\":null\x7d " (by decide)
  obtain ⟨-, -, hwhole⟩ := hfronts _ _ _ hparted " \x7b\"l\\u0067\":null\x7d" " " (by decide)
  refine ⟨hread.mpr ⟨_, _, _, hparted⟩, ?_, hwhole.mpr hblank⟩
  rcases hcut with hpart | hended
  · exact absurd (hmissing.mp hpart '6' (by decide)) (by decide)
  · exact hended

end LoadingIndicator.Size
