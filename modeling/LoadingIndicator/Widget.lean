/-
# The widgets

Three pieces of markup with which a page says that it is busy: the spinner, a section of a page
that is loading, and an overlay over a whole page.  What a user leaves out is given a standard
value.
-/
import LoadingIndicator.Markup.Token
import LoadingIndicator.Style

namespace LoadingIndicator.Widget

open Markup

/-! ## 1. The spinner -/

/-- The label of a spinner for which none is given. -/
def standardLabel : String := "Loading"

/-- What a user may say of a spinner: its style, and a label for readers that do not see it. -/
structure Spinner where
  style : Style := Style.standard
  label : String := standardLabel
  deriving DecidableEq

/-- A spinner of which each part may be left out. -/
def Spinner.ofOptions (size : Option Size) (className label : Option String) : Spinner :=
  { style := ⟨size.getD Size.standard, className⟩, label := label.getD standardLabel }

/-- A container that carries the label, and in it the turning indicator. -/
def Spinner.node (s : Spinner) : Node :=
  .element "div"
    [⟨"class", s.style.containerClass⟩, ⟨"role", "status"⟩, ⟨"aria-label", s.label⟩]
    [.ofClass "div" s.style.indicatorClass []]

/-! ## 2. The section and the overlay -/

/-- A section of a page that is loading: a spinner with room above and below. -/
def loadingSection (size : Option Size) : Node :=
  .ofClass "div" "loading" [(Spinner.ofOptions size (some "py-12") none).node]

/-- The label of an overlay for which none is given. -/
def overlayLabel : String := "Please wait"

/-- An overlay over a whole page: a large spinner before a backdrop. -/
def overlay (label : Option String) : Node :=
  .ofClass "div" "modal-backdrop"
    [(Spinner.ofOptions (some .large) none (some (label.getD overlayLabel))).node]

end LoadingIndicator.Widget
