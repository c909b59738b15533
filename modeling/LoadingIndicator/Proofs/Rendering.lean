/-
# What a reader finds in the markup of the widgets

The classes and the label that a user gives a spinner are arbitrary texts, and in the markup they
stand between quotes.  A reader that knows of tags, attributes, quotes and four entities and of
nothing else must find in the markup what was put there: two elements, one in the other, with
their attributes in order and every value as it was.  So no class and no label can end its
attribute, add another one or open an element, and none loses a character.

Since the markup can be read back, it tells spinners apart: two have the same markup exactly when
their sizes, their containers' classes and their labels are the same.

Main statement:

* `read?_html_widgets`: what is read from the spinner and the overlay, and when two spinners have
  the same markup.
-/
import LoadingIndicator.Markup.Reader
import LoadingIndicator.Widget

namespace LoadingIndicator.Widget

open Markup

/-! ## 1. What should be found -/

/-- A labelled container with an empty element in it. -/
def statusNode (containerClass label indicatorClass : String) : Node :=
  .element "div" [⟨"class", containerClass⟩, ⟨"role", "status"⟩, ⟨"aria-label", label⟩]
    [.element "div" [⟨"class", indicatorClass⟩] []]

/-- A backdrop with something before it. -/
def backdropNode (content : Node) : Node := .element "div" [⟨"class", "modal-backdrop"⟩] [content]

/-! ## 2. The markup is plain -/

theorem isName_used :
    isName "div" = true ∧ isName "class" = true ∧ isName "role" = true ∧
      isName "aria-label" = true := by decide

/-- The names in a spinner's markup are plain, whatever its values are. -/
theorem isPlain_statusNode (containerClass label indicatorClass : String) :
    (statusNode containerClass label indicatorClass).isPlain = true := by
  obtain ⟨hdiv, hclass, hrole, hlabel⟩ := isName_used
  simp [statusNode, Node.isPlain, Node.tokens, tokensOf, Token.isTag, hdiv, hclass, hrole, hlabel]

theorem isPlain_backdropNode {content : Node} (h : content.isPlain = true) :
    (backdropNode content).isPlain = true := by
  obtain ⟨hdiv, hclass, -, -⟩ := isName_used
  rw [Node.isPlain] at h
  simp [backdropNode, Node.isPlain, Node.tokens, tokensOf, Token.isTag, hdiv, hclass, h]

/-! ## 3. Reading -/

/-- **The markup of a spinner is read as its container and its indicator.** -/
theorem read?_html_spinner (s : Spinner) :
    read? s.node.html =
      some [statusNode s.style.containerClass s.label s.style.indicatorClass] :=
  read?_html (isPlain_statusNode s.style.containerClass s.label s.style.indicatorClass)

/-- What looks like markup is written as text, and an empty label as a bare name. -/
example : (Spinner.ofOptions none (some " \"><p>&quot; ") (some "")).node.html =
    "<div class=\"flex justify-center items-center &quot;&gt;&lt;p&gt;&amp;quot;\" role=\"status\"" ++
      " aria-label><div class=\"animate-spin rounded-full border-b-2 border-current w-8 h-8\">" ++
      "</div></div>" := by decide +kernel

theorem read?_html_overlay (label : Option String) :
    read? (overlay label).html =
      some [backdropNode (statusNode (Style.containerClass ⟨.large, none⟩)
        (label.getD overlayLabel) (Style.indicatorClass ⟨.large, none⟩))] :=
  read?_html (isPlain_backdropNode (isPlain_statusNode _ _ _))

/-- **The markup tells spinners apart** by their size, their container's classes and their
label. -/
theorem html_spinner_eq_iff {s t : Spinner} :
    s.node.html = t.node.html ↔
      s.style.size = t.style.size ∧ s.style.containerClass = t.style.containerClass ∧
        s.label = t.label := by
  constructor
  · intro h
    have hread := read?_html_spinner s
    rw [h, read?_html_spinner t] at hread
    simp only [statusNode, Option.some.injEq, List.cons.injEq, Node.element.injEq,
      Attribute.mk.injEq, true_and, and_true] at hread
    obtain ⟨⟨hcontainer, hlabel⟩, hindicator⟩ := hread
    exact ⟨Style.indicatorClass_eq_iff.mp hindicator.symm, hcontainer.symm, hlabel.symm⟩
  · rintro ⟨hsize, hcontainer, hlabel⟩
    have hindicator : s.style.indicatorClass = t.style.indicatorClass :=
      Style.indicatorClass_eq_iff.mpr hsize
    rw [Spinner.node, Spinner.node, hcontainer, hlabel, hindicator]

/-- **Nothing can be put into the markup of a widget and nothing is lost in it.**  Whatever size,
class and label are given or left out, a reader finds exactly one container with its three
attributes and in it exactly one empty element with its class; in an overlay it finds a large
spinner without added classes before one backdrop.  Two spinners have the same markup exactly
when they have the same size, the same classes of the container, which are those added without
the blanks around them, and the same label, a label left out being the standard one. -/
theorem read?_html_widgets :
    (∀ (size : Option Size) (className label : Option String),
      read? (Spinner.ofOptions size className label).node.html =
        some [statusNode (Style.containerClass ⟨size.getD .medium, className⟩)
          (label.getD "Loading") (Style.indicatorClass ⟨size.getD .medium, className⟩)]) ∧
      (∀ label : Option String,
        read? (overlay label).html =
          some [backdropNode (statusNode (Style.containerClass ⟨.large, none⟩)
            (label.getD "Please wait") (Style.indicatorClass ⟨.large, none⟩))]) ∧
      ∀ (size₁ size₂ : Option Size) (class₁ class₂ label₁ label₂ : Option String),
        ((Spinner.ofOptions size₁ class₁ label₁).node.html =
            (Spinner.ofOptions size₂ class₂ label₂).node.html ↔
          size₁.getD .medium = size₂.getD .medium ∧
            Style.containerClass ⟨size₁.getD .medium, class₁⟩ =
              Style.containerClass ⟨size₂.getD .medium, class₂⟩ ∧
            label₁.getD "Loading" = label₂.getD "Loading") ∧
        (Style.containerClass ⟨size₁.getD .medium, class₁⟩ =
            Style.containerClass ⟨size₂.getD .medium, class₂⟩ ↔
          Text.trim (class₁.getD "") = Text.trim (class₂.getD "")) := by
  refine ⟨?_, ?_, ?_⟩
  · intro size className label
    exact read?_html_spinner (Spinner.ofOptions size className label)
  · intro label
    exact read?_html_overlay label
  · intro size₁ size₂ class₁ class₂ label₁ label₂
    constructor
    · exact html_spinner_eq_iff
    · exact Style.containerClass_eq_iff

end LoadingIndicator.Widget
