/-
# Markup trees

A page is a tree of elements and texts.  An element has a tag, attributes in a fixed order and
children in a fixed order; a text has no structure.
-/

namespace LoadingIndicator.Markup

/-- An attribute with its value. -/
structure Attribute where
  name : String
  value : String
  deriving DecidableEq

/-- An element with its attributes and children, or a text. -/
inductive Node
  | element (tag : String) (attributes : List Attribute) (children : List Node)
  | text (content : String)

/-- An element that has only a class. -/
def Node.ofClass (tag className : String) (children : List Node) : Node :=
  .element tag [⟨"class", className⟩] children

end LoadingIndicator.Markup
