/-
# Compact JSON text

Values are written without white space.  In a string the quote, the backslash and the control
characters are escaped, by a letter where there is one and else by four lower-case digits; all
other characters stand as they are.
-/
import LoadingIndicator.Json.Value

namespace LoadingIndicator.Json

/-! ## 1. Strings -/

/-- How a character stands in a string. -/
def printChar (c : Char) : List Char :=
  match c with
  | '"' => ['\\', '"']
  | '\\' => ['\\', '\\']
  | '\x08' => ['\\', 'b']
  | '\x0c' => ['\\', 'f']
  | '\n' => ['\\', 'n']
  | '\r' => ['\\', 'r']
  | '\t' => ['\\', 't']
  | c =>
    if c.toNat < 0x20 then
      ['\\', 'u', '0', '0', Nat.digitChar (c.toNat / 16), Nat.digitChar (c.toNat % 16)]
    else [c]

def printChars (cs : List Char) : List Char := cs.flatMap printChar

def printString (s : String) : List Char := '"' :: printChars s.toList ++ ['"']

/-! ## 2. Values -/

mutual

def printValue : Value → List Char
  | .null => ['n', 'u', 'l', 'l']
  | .bool true => ['t', 'r', 'u', 'e']
  | .bool false => ['f', 'a', 'l', 's', 'e']
  | .number n => n.print
  | .string s => printString s
  | .array items => '[' :: printItems items
  | .object entries => '{' :: printEntries entries

/-- The items of an array with the closing bracket. -/
def printItems : List Value → List Char
  | [] => [']']
  | item :: items => printValue item ++ printMoreItems items

/-- The items of an array that follow another one, with the closing bracket. -/
def printMoreItems : List Value → List Char
  | [] => [']']
  | item :: items => ',' :: printValue item ++ printMoreItems items

/-- The entries of an object with the closing brace. -/
def printEntries : List (String × Value) → List Char
  | [] => ['}']
  | entry :: entries => printEntry entry ++ printMoreEntries entries

/-- The entries of an object that follow another one, with the closing brace. -/
def printMoreEntries : List (String × Value) → List Char
  | [] => ['}']
  | entry :: entries => ',' :: printEntry entry ++ printMoreEntries entries

def printEntry : String × Value → List Char
  | (key, value) => printString key ++ ':' :: printValue value

end

/-- A value as compact text. -/
def Value.print (v : Value) : String := String.ofList (printValue v)

end LoadingIndicator.Json
