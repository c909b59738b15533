/-
# What clicks do to the page

Only two things can be clicked, and what a run of clicks leaves on the page depends on its last
click alone: the button leaves the overlay there and a click on the overlay leaves it away, also
when it hit nothing.  Everything else on the page is as it was mounted.

A single click already forgets the state but for the featured size (`clicked_eq`).  So the state in
front of the click at `i` is that of mounting for the first click, and is told by the click before
it for every other (`shown_before`), which is the invariant that a run carries.

Main statement:

* `seen_mount`: what is seen of every click of every run, after mounting with any address.
-/
import LoadingIndicator.Gallery

namespace LoadingIndicator.Gallery

open Markup Widget

/-! ## 1. Overlays on a page -/

/-- Whether a token opens an overlay. -/
def opensOverlay : Token → Bool
  | .opening _ attributes => attributes.contains ⟨"class", "modal-backdrop"⟩
  | .closing _ => false
  | .text _ => false

/-- How many overlays a page holds. -/
def overlays (page : Node) : Nat := page.tokens.countP opensOverlay

theorem overlays_page (g : Gallery) : overlays g.page = if g.overlayShown then 1 else 0 := by
  obtain ⟨featured, shown⟩ := g
  cases featured <;> cases shown <;> decide +kernel

/-! ## 2. One click -/

/-- **A click forgets all but the featured size**: behind it the overlay is shown exactly if the
button was clicked.  It logs nothing, whether a handler is called or not. -/
theorem clicked_eq (g : Gallery) (t : Target) :
    g.clicked t = (⟨g.featured, decide (t = .button)⟩, []) := by
  obtain ⟨featured, shown⟩ := g
  cases t with
  | button => rfl
  | overlay =>
    cases shown with
    | true => rfl
    | false => rfl

theorem click_eq (g : Gallery) (t : Target) : g.click t = ⟨g.featured, decide (t = .button)⟩ :=
  congrArg Prod.fst (clicked_eq g t)

/-! ## 3. Runs -/

theorem featured_run (g : Gallery) (ts : List Target) : (g.run ts).featured = g.featured := by
  induction ts generalizing g with
  | nil => rfl
  | cons t ts ih => rw [run_cons, ih, click_eq]

/-- **The last click of a run decides.** -/
theorem run_concat (g : Gallery) (ts : List Target) (t : Target) :
    g.run (ts ++ [t]) = ⟨g.featured, decide (t = .button)⟩ := by
  rw [run_append, run_cons, run_nil, click_eq, featured_run]

theorem length_seen (g : Gallery) (ts : List Target) : (g.seen ts).length = ts.length := by
  induction ts generalizing g with
  | nil => rfl
  | cons t ts ih => rw [seen, List.length_cons, List.length_cons, ih]

/-- What is seen of a click is decided by the page that the clicks before it left. -/
theorem getElem?_seen (g : Gallery) (ts : List Target) {i : Nat} {t : Target}
    (ht : ts[i]? = some t) :
    (g.seen ts)[i]? =
      some ⟨(g.run (ts.take i)).present t, (page ⟨g.featured, decide (t = .button)⟩), []⟩ := by
  induction ts generalizing g i with
  | nil => cases ht
  | cons u ts ih =>
    cases i with
    | zero =>
      have hu : u = t := Option.some.inj ht
      subst hu
      rw [seen, List.getElem?_cons_zero, clicked_eq]
      rfl
    | succ i =>
      rw [seen, List.getElem?_cons_succ, ih (g.clicked u).1 ht, List.take_succ_cons, run_cons,
        click_eq, clicked_eq]

/-- **In front of a click the overlay is shown exactly if the click before it was one on the
button.**  In front of the first there is none. -/
theorem shown_before {g : Gallery} (hg : g.overlayShown = false) {ts : List Target} {i : Nat}
    (hi : i < ts.length) :
    (g.run (ts.take i)).overlayShown = true ↔ ∃ j, i = j + 1 ∧ ts[j]? = some .button := by
  cases i with
  | zero =>
    rw [List.take_zero, run_nil, hg]
    constructor
    · intro h
      cases h
    · rintro ⟨j, hj, -⟩
      omega
  | succ j =>
    have hj : j < ts.length := by omega
    have htake : ts.take (j + 1) = ts.take j ++ [ts[j]] := by
      rw [List.take_add_one, List.getElem?_eq_getElem hj, Option.toList_some]
    rw [htake, run_concat, decide_eq_true_eq]
    constructor
    · intro hbutton
      exact ⟨j, rfl, by rw [List.getElem?_eq_getElem hj, hbutton]⟩
    · rintro ⟨k, hk, hbutton⟩
      obtain rfl : j = k := by omega
      rw [List.getElem?_eq_getElem hj] at hbutton
      exact Option.some.inj hbutton

/-- A click finds its target if that is the button, or if the click before it was one on the
button. -/
theorem present_before {g : Gallery} (hg : g.overlayShown = false) {ts : List Target} {i : Nat}
    (hi : i < ts.length) (t : Target) :
    (g.run (ts.take i)).present t = true ↔
      t = .button ∨ ∃ j, i = j + 1 ∧ ts[j]? = some .button := by
  cases t with
  | button =>
    constructor
    · intro _
      exact Or.inl rfl
    · intro _
      rfl
  | overlay =>
    have hshown := shown_before hg hi
    constructor
    · intro hpresent
      exact Or.inr (hshown.mp hpresent)
    · rintro (hbutton | hbefore)
      · cases hbutton
      · exact hshown.mpr hbefore

theorem html_page_click (z : Size) (t : Target) :
    (page ⟨z, decide (t = .button)⟩).html =
      if t = .button then bodyHtml z ++ ("<div>" ++ (overlay none).html ++ "</div>") ++ "</main>"
      else (page ⟨z, false⟩).html := by
  cases t with
  | button => exact html_page_shown z
  | overlay => rfl

/-! ## 4. Runs after mounting -/

/-- **The run of the page in closed form.**  After mounting there is no overlay.  Of every click
of every run is seen: it finds its target exactly if it is one on the button or follows one; it
logs nothing; and the page then holds one overlay if it was one on the button and else none,
which stands directly before the end of the page, all else being as it was mounted.  Pages with
the same featured size cannot be told apart, whatever their addresses are. -/
theorem seen_mount (query : Option String) (ts : List Target) :
    (overlays (mount query).page = 0 ∧
        (mount query).page.html = bodyHtml (requested query).1 ++ "</main>") ∧
      ((mount query).seen ts).length = ts.length ∧
      (∀ i t, ts[i]? = some t → ∃ s, ((mount query).seen ts)[i]? = some s ∧
        (s.fired = true ↔ t = .button ∨ ∃ j, i = j + 1 ∧ ts[j]? = some .button) ∧
        s.logs = [] ∧ (overlays s.page = if t = .button then 1 else 0) ∧
        s.page.html =
          if t = .button then bodyHtml (requested query).1 ++
            ("<div>" ++ (overlay none).html ++ "</div>") ++ "</main>"
          else (mount query).page.html) ∧
      ∀ query' : Option String, (requested query').1 = (requested query).1 →
        (mount query').page.html = (mount query).page.html ∧
          (mount query').seen ts = (mount query).seen ts := by
  refine ⟨⟨overlays_page _, html_page_hidden _⟩, length_seen _ ts, ?_, ?_⟩
  · intro i t ht
    have hi : i < ts.length := (List.getElem?_eq_some_iff.mp ht).1
    refine ⟨_, getElem?_seen (mount query) ts ht, present_before rfl hi t, rfl, ?_, ?_⟩
    · rw [overlays_page]
      simp only [decide_eq_true_eq]
    · exact html_page_click (requested query).1 t
  · intro query' hsize
    have hmount : mount query' = mount query := by rw [mount, mount, hsize]
    rw [hmount]
    exact ⟨rfl, rfl⟩

/-- A click on an overlay that is gone finds nothing, one on the button behind it shows the
overlay again, and another spelling of the size makes no difference. -/
theorem seen_mount_repeated :
    (∃ s, ((mount (some "?size=lg")).seen [.button, .button, .overlay, .overlay, .button])[3]? =
        some s ∧ s.fired = false ∧ s.page.html = (mount (some "?size=lg")).page.html) ∧
      (∃ s, ((mount (some "?size=lg")).seen [.button, .button, .overlay, .overlay, .button])[4]? =
        some s ∧ s.fired = true ∧ overlays s.page = 1) ∧
      (mount (some "x=%3Cb%3E&size=+LARGE")).seen [.button, .overlay] =
        (mount (some "?size=lg")).seen [.button, .overlay] := by
  obtain ⟨-, -, hclicks, -⟩ :=
    seen_mount (some "?size=lg") [.button, .button, .overlay, .overlay, .button]
  obtain ⟨-, -, -, hsame⟩ := seen_mount (some "?size=lg") [.button, .overlay]
  obtain ⟨s, hs, hfired, -, -, hpage⟩ := hclicks 3 .overlay rfl
  obtain ⟨s', hs', hfired', -, hoverlays, -⟩ := hclicks 4 .button rfl
  refine ⟨⟨s, hs, ?_, hpage⟩, ⟨s', hs', hfired'.mpr (Or.inl rfl), hoverlays⟩, ?_⟩
  · rw [← Bool.not_eq_true, hfired]
    rintro (hbutton | ⟨j, hj, hbutton⟩)
    · cases hbutton
    · obtain rfl : j = 2 := by omega
      cases hbutton
  · have hsize : (requested (some "x=%3Cb%3E&size=+LARGE")).1 =
        (requested (some "?size=lg")).1 := by decide +kernel
    exact (hsame (some "x=%3Cb%3E&size=+LARGE") hsize).2

end LoadingIndicator.Gallery
