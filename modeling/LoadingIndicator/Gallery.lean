/-
# The gallery page

One page shows the spinner in all its forms: in the size that the address asks for, in each of
the three sizes, with classes of its own, in a section that is loading and, after a click on a
button, in an overlay over the page.  A click on the overlay takes it away again.

The page is a value of two parts, the featured size and whether the overlay is shown, and its
markup is a function of them.  Mounting reads the address and logs; a click calls the handler of
what it hits, which gives the page behind it together with the lines that it logs.

Main statements:

* `html_page_hidden`, `html_page_shown`: the overlay stands directly before the end of the page;
* `run_append`: a run of clicks can be cut anywhere.
-/
import LoadingIndicator.Query.Form
import LoadingIndicator.Size.Parse
import LoadingIndicator.Widget

namespace LoadingIndicator

open Markup Widget

/-! ## 1. The state and its markup -/

/-- What can change on the page: the featured size, which mounting sets, and whether the
overlay is shown. -/
structure Gallery where
  featured : Size
  overlayShown : Bool := false
  deriving DecidableEq

namespace Gallery

/-- A part of the page under a heading. -/
def part (heading : String) (content : Node) : Node :=
  .element "section" [] [.element "h2" [] [.text heading], content]

/-- The spinner in each of the sizes, the middle one being the standard size. -/
def sizesRow : Node :=
  .ofClass "div" "flex gap-4"
    [(Spinner.ofOptions (some .small) none none).node, (Spinner.ofOptions none none none).node,
      (Spinner.ofOptions (some .large) none none).node]

def button : Node :=
  .element "button" [⟨"type", "button"⟩, ⟨"class", "btn btn-primary"⟩] [.text "Show overlay"]

/-- What is on the page whatever the address asks for. -/
def otherNodes : List Node :=
  [part "Sizes" sizesRow,
    part "Custom class" (Spinner.ofOptions none (some "text-amber-500 p-4") none).node,
    part "Page loading" (loadingSection none),
    button]

/-- What is always on the page. -/
def fixedNodes (featured : Size) : List Node :=
  part "Featured" (Spinner.ofOptions (some featured) none none).node :: otherNodes

/-- The overlay in the element that takes its clicks. -/
def overlayNode : Node := .element "div" [] [overlay none]

def page (g : Gallery) : Node :=
  .ofClass "main" "spinner-gallery"
    (fixedNodes g.featured ++ if g.overlayShown then [overlayNode] else [])

/-! ## 2. The text of the page -/

/-- The text of the page up to where the overlay stands. -/
def bodyHtml (featured : Size) : String :=
  "<main class=\"spinner-gallery\">" ++ htmlOf (fixedNodes featured)

theorem html_overlayNode : overlayNode.html = "<div>" ++ (overlay none).html ++ "</div>" := by
  have hopen : (Token.opening "div" []).html = "<div>" := by decide
  have hclose : (Token.closing "div").html = "</div>" := by decide
  rw [overlayNode, html_element, htmlOf_cons, htmlOf_nil, String.append_empty, hopen, hclose]

theorem html_featured (content : Node) :
    (part "Featured" content).html =
      "<section><h2>Featured</h2>" ++ content.html ++ "</section>" := by
  have hopen : (Token.opening "section" []).html = "<section>" := by decide
  have hclose : (Token.closing "section").html = "</section>" := by decide
  have hheading : (Node.element "h2" [] [.text "Featured"]).html = "<h2>Featured</h2>" := by
    decide +kernel
  have hfront : "<section>" ++ "<h2>Featured</h2>" = "<section><h2>Featured</h2>" := by simp
  rw [part, html_element, htmlOf_cons, htmlOf_cons, htmlOf_nil, String.append_empty, hopen,
    hclose, hheading, ← hfront]
  simp only [String.append_assoc]

/-- The text of the page, with nothing between its body and its end but the overlay. -/
theorem html_page (g : Gallery) :
    g.page.html =
      bodyHtml g.featured ++ (if g.overlayShown then overlayNode.html else "") ++ "</main>" := by
  have hopen : (Token.opening "main" [⟨"class", "spinner-gallery"⟩]).html =
      "<main class=\"spinner-gallery\">" := by decide +kernel
  have hclose : (Token.closing "main").html = "</main>" := by decide
  have hoverlay : htmlOf (if g.overlayShown then [overlayNode] else []) =
      if g.overlayShown then overlayNode.html else "" := by
    split
    · rw [htmlOf_cons, htmlOf_nil, String.append_empty]
    · exact htmlOf_nil
  unfold bodyHtml
  rw [page, Node.ofClass, html_element, htmlOf_append, hopen, hclose, hoverlay]
  simp only [String.append_assoc]

/-- Without the overlay the page ends where its body does. -/
theorem html_page_hidden (featured : Size) :
    (page ⟨featured, false⟩).html = bodyHtml featured ++ "</main>" := by
  have hpage := html_page ⟨featured, false⟩
  rw [if_neg Bool.false_ne_true, String.append_empty] at hpage
  exact hpage

/-- With it, the overlay stands between the body and the end. -/
theorem html_page_shown (featured : Size) :
    (page ⟨featured, true⟩).html =
      bodyHtml featured ++ ("<div>" ++ (overlay none).html ++ "</div>") ++ "</main>" := by
  have hpage := html_page ⟨featured, true⟩
  rw [if_pos rfl, html_overlayNode] at hpage
  exact hpage

/-- The body begins with the featured spinner under its heading. -/
theorem bodyHtml_eq (featured : Size) :
    bodyHtml featured =
      "<main class=\"spinner-gallery\">" ++ ("<section><h2>Featured</h2>" ++
        (Spinner.ofOptions (some featured) none none).node.html ++ "</section>") ++
        htmlOf otherNodes := by
  unfold bodyHtml
  rw [fixedNodes, htmlOf_cons, html_featured, ← String.append_assoc]

/-! ## 3. Mounting -/

/-- The size that an address asks for, and what is logged of it.  The query of an address may
be unknown. -/
def requested (query : Option String) : Size × List Log.Line :=
  Size.ofAttribute (query.bind fun q => Query.get? q "size")

/-- The page after mounting. -/
def mount (query : Option String) : Gallery := { featured := (requested query).1 }

/-- What mounting logs: a size that is refused, and then the size that is featured. -/
def mountLogs (query : Option String) : List Log.Line :=
  (requested query).2 ++
    [⟨.debug, "Featured spinner size: " ++ (requested query).1.name⟩]

/-! ## 4. Clicks -/

inductive Target
  | button
  | overlay
  deriving DecidableEq

/-- Whether the target is on the page. -/
def present (g : Gallery) : Target → Bool
  | .button => true
  | .overlay => g.overlayShown

/-- The handler of a target: the page that it leaves and the lines that it logs. -/
def handle (g : Gallery) : Target → Gallery × List Log.Line
  | .button => ({ g with overlayShown := true }, [])
  | .overlay => ({ g with overlayShown := false }, [])

/-- What a click leaves and logs.  A click on what is not there calls no handler. -/
def clicked (g : Gallery) (t : Target) : Gallery × List Log.Line :=
  if g.present t then g.handle t else (g, [])

/-- The page after a click. -/
def click (g : Gallery) (t : Target) : Gallery := (g.clicked t).1

/-- The page after a run of clicks. -/
def run (g : Gallery) (ts : List Target) : Gallery := ts.foldl click g

/-- What can be seen of a click: whether its target was there, the page after it and the lines
logged. -/
structure Seen where
  fired : Bool
  page : Node
  logs : List Log.Line

/-- What can be seen of each of a run of clicks. -/
def seen (g : Gallery) : List Target → List Seen
  | [] => []
  | t :: ts =>
    ⟨g.present t, (g.clicked t).1.page, (g.clicked t).2⟩ :: seen (g.clicked t).1 ts

@[simp] theorem run_nil (g : Gallery) : g.run [] = g := rfl

@[simp] theorem run_cons (g : Gallery) (t : Target) (ts : List Target) :
    g.run (t :: ts) = (g.click t).run ts := rfl

/-- **A run of clicks can be cut anywhere.** -/
theorem run_append (g : Gallery) (xs ys : List Target) : g.run (xs ++ ys) = (g.run xs).run ys :=
  List.foldl_append

end Gallery

end LoadingIndicator
