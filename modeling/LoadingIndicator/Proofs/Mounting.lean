/-
# Mounting reads the address

The address is a text and the page wants one value of it.  A list of named values has many
spellings, and mounting must do the same on all of them: take the value of the first pair whose
name is `size`, report it if it names no size, report the size that is featured, and show the
spinner in that size under the heading of the featured part.

An absent value and an empty one are not the same.  Where no pair has the name, nothing is
refused; where one has it with an empty value, that value is refused and reported.

Main statement:

* `mount_of_spellsQuery`: the log and the page after mounting on any spelling of any list.
-/
import LoadingIndicator.Gallery
import LoadingIndicator.Query.Spelling

namespace LoadingIndicator.Gallery

open Markup Query Widget

/-! ## 1. What is expected -/

/-- The line that reports a value that names no size. -/
def refusalLine (v : String) : Log.Line :=
  ⟨.warn, "Unknown spinner size: " ++ Text.quote v ++ ", falling back to md"⟩

def featuredLine (z : Size) : Log.Line := ⟨.debug, "Featured spinner size: " ++ z.name⟩

/-- What is logged of the value that an address gives to `size`, where it gives one. -/
def refusalLines : Option String → List Log.Line
  | none => []
  | some v =>
    match Size.parse v with
    | .ok _ => []
    | .error _ => [refusalLine v]

/-- The page before the featured spinner. -/
def beforeFeatured : String := "<main class=\"spinner-gallery\"><section><h2>Featured</h2>"

/-- The page behind the featured spinner, without an overlay. -/
def afterFeatured : String := "</section>" ++ htmlOf otherNodes ++ "</main>"

/-! ## 2. The value of `size` -/

/-- **Every spelling of a list gives a name its first value in the list.** -/
theorem get?_of_spellsQuery {ps : List (String × String)} {text : String}
    (h : SpellsQuery ps text.toList) (name : String) : get? text name = ps.lookup name := by
  have hpairs : pairs text = ps := by
    have hread := pairs_of_spellsQuery h
    rw [String.ofList_toList] at hread
    exact hread
  rw [get?, hpairs, lookup?_eq_lookup]

theorem requested_of_spellsQuery {ps : List (String × String)} {text : String}
    (h : SpellsQuery ps text.toList) :
    requested (some text) = Size.ofAttribute (ps.lookup "size") := by
  rw [requested, Option.bind_some, get?_of_spellsQuery h]

theorem refusalLines_of_ok {v : String} {z : Size} (h : Size.parse v = .ok z) :
    refusalLines (some v) = [] := by
  unfold refusalLines
  simp only [h]

theorem refusalLines_of_error {v : String} {e : UnknownSize} (h : Size.parse v = .error e) :
    refusalLines (some v) = [refusalLine v] := by
  unfold refusalLines
  simp only [h]

/-- A lenient reading logs the value that it refuses, and nothing else. -/
theorem logs_ofAttribute (value : Option String) :
    (Size.ofAttribute value).2 = refusalLines value := by
  cases value with
  | none => rfl
  | some v =>
    cases hv : Size.parse v with
    | ok z => rw [Size.ofAttribute_of_ok hv, refusalLines_of_ok hv]
    | error e =>
      have hline : e.warning = refusalLine v := by
        rw [← Size.value_of_parse hv]
        exact UnknownSize.warning_eq e
      rw [Size.ofAttribute_of_error hv, refusalLines_of_error hv, hline]

/-! ## 3. Mounting -/

/-- After mounting the page has the featured spinner in its place, and no overlay. -/
theorem html_mount (query : Option String) :
    (mount query).page.html = beforeFeatured ++
      (Spinner.ofOptions (some (requested query).1) none none).node.html ++ afterFeatured := by
  have hfront : "<main class=\"spinner-gallery\">" ++ "<section><h2>Featured</h2>" =
      beforeFeatured := by decide +kernel
  rw [mount, html_page_hidden, bodyHtml_eq, ← hfront]
  unfold afterFeatured
  simp only [String.append_assoc]

/-- **Mounting on any spelling of a list of named values does the same.**  With `v` the value of
the first pair named `size`, where there is one, and `z` the size that a lenient reading makes of
it, mounting logs a line if `v` is refused and then one that names `z`, and the spinner in the
featured part is the spinner of size `z`.  Every list has a spelling. -/
theorem mount_of_spellsQuery (ps : List (String × String)) :
    (∃ text : String, SpellsQuery ps text.toList) ∧
      ∀ text : String, SpellsQuery ps text.toList →
        mountLogs (some text) = refusalLines (ps.lookup "size") ++
            [featuredLine (Size.ofAttribute (ps.lookup "size")).1] ∧
          (mount (some text)).page.html = beforeFeatured ++
            (Spinner.ofOptions (some (Size.ofAttribute (ps.lookup "size")).1) none none).node.html ++
              afterFeatured := by
  refine ⟨exists_spellsQuery ps, ?_⟩
  intro text htext
  have hrequested := requested_of_spellsQuery htext
  constructor
  · have hlogs : mountLogs (some text) =
        (requested (some text)).2 ++ [featuredLine (requested (some text)).1] := rfl
    rw [hlogs, hrequested, logs_ofAttribute]
  · rw [html_mount, hrequested]

/-- An escape within the name, a plus sign and gaps are all read; the second `size` is not. -/
theorem mount_of_spellsQuery_escaped :
    SpellsQuery [("size", " xl"), ("size", "lg")] "?&s%69ze=+xl&&size=lg".toList ∧
      mountLogs (some "?&s%69ze=+xl&&size=lg") = [refusalLine " xl", featuredLine .medium] ∧
        (mount (some "?&s%69ze=+xl&&size=lg")).page.html = beforeFeatured ++
          (Spinner.ofOptions (some .medium) none none).node.html ++ afterFeatured := by
  have hi : SpellsBytes (String.utf8EncodeChar 'i') ['%', '6', '9'] := .cons (by decide) .nil
  have hname : Spells reservedInName "size".toList (['s'] ++ (['%', '6', '9'] ++ ['z', 'e'])) :=
    .cons (.plain (by decide)) (.cons (.escaped hi) (spells_self (by decide)))
  have hvalue : Spells reservedInValue " xl".toList (['+'] ++ ['x', 'l']) :=
    .cons .plus (spells_self (by decide))
  have hname' : Spells reservedInName "size".toList "size".toList := spells_self (by decide)
  have hvalue' : Spells reservedInValue "lg".toList "lg".toList := spells_self (by decide)
  have htext : SpellsQuery [("size", " xl"), ("size", "lg")] "?&s%69ze=+xl&&size=lg".toList :=
    .marked (.gap (.cons (.joined hname hvalue) (.gap (.cons (.joined hname' hvalue') .nil))))
  have hrefused : Size.parse " xl" = .error ⟨" xl"⟩ := by
    refine Size.parse_eq_error ?_
    intro z
    rw [ne_eq, Size.parse_eq_ok_iff]
    cases z <;> decide +kernel
  have hfirst : List.lookup "size" [("size", " xl"), ("size", "lg")] = some " xl" := by
    decide +kernel
  obtain ⟨hlogs, hpage⟩ := (mount_of_spellsQuery _).2 _ htext
  rw [hfirst, Size.ofAttribute_of_error hrefused] at hlogs hpage
  rw [refusalLines_of_error hrefused] at hlogs
  exact ⟨htext, hlogs, hpage⟩

end LoadingIndicator.Gallery
