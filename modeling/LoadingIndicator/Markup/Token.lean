/-
# Markup text

A tree is written as its tags and texts in order, without white space between them.  An
attribute's value stands in double quotes with four characters written as entities, so that it
can neither end early nor begin a tag; an attribute with the empty value is its bare name.

Tags and texts are the tokens of a tree.  Writing goes through them, and so does reading: the
tree of a token list is built on a stack of the elements that are still open.

Main statements:

* `html_element`, `htmlOf_append`: the text of a tree is made of those of its parts;
* `build_tokens`: the tree of a tree's tokens is the tree;
* `isInert_of_mem_printValue`: in a written value there is no quote and no angle bracket.
-/
import LoadingIndicator.Markup.Node

namespace LoadingIndicator.Markup

/-! ## 1. Tokens -/

/-- A tag or a text. -/
inductive Token
  | opening (tag : String) (attributes : List Attribute)
  | closing (tag : String)
  | text (content : String)
  deriving DecidableEq

mutual

/-- The tokens of a tree. -/
def Node.tokens : Node → List Token
  | .element tag attributes children =>
    .opening tag attributes :: (tokensOf children ++ [.closing tag])
  | .text content => [.text content]

/-- The tokens of siblings, one after another. -/
def tokensOf : List Node → List Token
  | [] => []
  | node :: nodes => node.tokens ++ tokensOf nodes

end

theorem tokensOf_append (xs ys : List Node) :
    tokensOf (xs ++ ys) = tokensOf xs ++ tokensOf ys := by
  induction xs with
  | nil => rfl
  | cons x xs ih => rw [List.cons_append, tokensOf, tokensOf, ih, List.append_assoc]

/-! ## 2. Writing -/

/-- How a character stands in an attribute's value. -/
def escapeValue (c : Char) : List Char :=
  match c with
  | '&' => ['&', 'a', 'm', 'p', ';']
  | '<' => ['&', 'l', 't', ';']
  | '>' => ['&', 'g', 't', ';']
  | '"' => ['&', 'q', 'u', 'o', 't', ';']
  | c => [c]

/-- How a character stands in a text: as in a value, but a quote as it is. -/
def escapeText (c : Char) : List Char := if c = '"' then ['"'] else escapeValue c

/-- The characters of an attribute's value between its quotes. -/
def printValue (value : String) : List Char := value.toList.flatMap escapeValue

/-- An attribute behind the space that parts it from what comes before. -/
def printAttribute (a : Attribute) : List Char :=
  if a.value.isEmpty then ' ' :: a.name.toList
  else ' ' :: a.name.toList ++ '=' :: '"' :: printValue a.value ++ ['"']

def Token.print : Token → List Char
  | .opening tag attributes => '<' :: tag.toList ++ attributes.flatMap printAttribute ++ ['>']
  | .closing tag => '<' :: '/' :: tag.toList ++ ['>']
  | .text content => content.toList.flatMap escapeText

def Node.html (node : Node) : String := String.ofList (node.tokens.flatMap Token.print)

def Token.html (token : Token) : String := String.ofList token.print

/-- Siblings as text, one after another. -/
def htmlOf (nodes : List Node) : String := String.ofList ((tokensOf nodes).flatMap Token.print)

theorem htmlOf_nil : htmlOf [] = "" := rfl

theorem htmlOf_cons (node : Node) (nodes : List Node) :
    htmlOf (node :: nodes) = node.html ++ htmlOf nodes := by
  rw [htmlOf, tokensOf, List.flatMap_append, String.ofList_append]
  rfl

theorem htmlOf_append (xs ys : List Node) : htmlOf (xs ++ ys) = htmlOf xs ++ htmlOf ys := by
  rw [htmlOf, tokensOf_append, List.flatMap_append, String.ofList_append]
  rfl

/-- **An element is its opening tag, its children and its closing tag.** -/
theorem html_element (tag : String) (attributes : List Attribute) (children : List Node) :
    (Node.element tag attributes children).html =
      (Token.opening tag attributes).html ++ htmlOf children ++ (Token.closing tag).html := by
  rw [Node.html, Node.tokens, List.flatMap_cons, List.flatMap_append, List.flatMap_singleton,
    String.ofList_append, String.ofList_append, ← String.append_assoc]
  rfl

/-- A character that can neither end a value nor begin or end a tag. -/
def isInert (c : Char) : Bool := c != '"' && c != '<' && c != '>'

theorem all_escapeValue (c : Char) : (escapeValue c).all isInert = true := by
  unfold escapeValue
  split
  · decide
  · decide
  · decide
  · decide
  · rename_i hamp hlt hgt hquote
    simp only [List.all_cons, List.all_nil, Bool.and_true, isInert, Bool.and_eq_true, bne_iff_ne]
    exact ⟨⟨fun h => hquote h, fun h => hlt h⟩, fun h => hgt h⟩

/-- **A written value is inert**: in it there is no quote and no angle bracket. -/
theorem isInert_of_mem_printValue {value : String} {d : Char} (h : d ∈ printValue value) :
    isInert d = true := by
  obtain ⟨c, -, hc⟩ := List.mem_flatMap.mp h
  exact List.all_eq_true.mp (all_escapeValue c) d hc

/-! ## 3. Building -/

/-- An element that is still open: its tag, its attributes, and the siblings before it, last
first. -/
structure Pending where
  tag : String
  attributes : List Attribute
  before : List Node

/-- The trees of a token list, within the elements `pending`, innermost first, and after the
siblings `before`, last first. -/
def build (pending : List Pending) (before : List Node) : List Token → Option (List Node)
  | [] => if pending.isEmpty then some before.reverse else none
  | .opening tag attributes :: tokens => build (⟨tag, attributes, before⟩ :: pending) [] tokens
  | .closing tag :: tokens =>
    match pending with
    | [] => none
    | p :: pending =>
      if p.tag = tag then
        build pending (.element p.tag p.attributes before.reverse :: p.before) tokens
      else none
  | .text content :: tokens => build pending (.text content :: before) tokens

mutual

/-- Behind the tokens of a tree, building goes on with the tree among the siblings. -/
theorem build_tokens_append (pending : List Pending) (before : List Node) :
    ∀ (node : Node) (tokens : List Token),
      build pending before (node.tokens ++ tokens) = build pending (node :: before) tokens
  | .element tag attributes children, tokens => by
    have hchildren := build_tokensOf_append (⟨tag, attributes, before⟩ :: pending) [] children
      (.closing tag :: tokens)
    simp only [Node.tokens, List.cons_append, List.append_assoc, List.nil_append, build]
    rw [hchildren, build]
    simp
  | .text content, tokens => by simp [Node.tokens, build]

theorem build_tokensOf_append (pending : List Pending) (before : List Node) :
    ∀ (nodes : List Node) (tokens : List Token),
      build pending before (tokensOf nodes ++ tokens) =
        build pending (nodes.reverse ++ before) tokens
  | [], tokens => by simp [tokensOf]
  | node :: nodes, tokens => by
    rw [tokensOf, List.append_assoc, build_tokens_append pending before node,
      build_tokensOf_append pending (node :: before) nodes]
    simp

end

/-- **The tree of a tree's tokens is the tree.** -/
theorem build_tokens (node : Node) : build [] [] node.tokens = some [node] := by
  have h := build_tokens_append [] [] node []
  rw [List.append_nil] at h
  rw [h]
  rfl

end LoadingIndicator.Markup
