/-
# JSON values

The values of JSON with the two kinds of numbers that its readers keep apart: whole numbers of
at most 64 bits, and floats.  An object is a list of entries in the order in which they stand.

A `Kind` says what a value is without what a container holds.  It is all that can be said of a
value of which only the first character has been read, and it is what an error report names.
-/
import LoadingIndicator.Decimal.Integer
import LoadingIndicator.Decimal.Shortest
import LoadingIndicator.Text.Quoted

namespace LoadingIndicator.Json

/-! ## 1. Numbers and values -/

/-- A number: whole, or a float. -/
inductive Number
  | integer (n : Int)
  | float (x : Float)
  deriving DecidableEq

/-- The characters of a number.  A whole number has neither point nor exponent, and a float has
one of them or both. -/
def Number.print : Number → List Char
  | .integer n => Decimal.integerText n
  | .float x => Decimal.floatText x

inductive Value
  | null
  | bool (b : Bool)
  | number (n : Number)
  | string (s : String)
  | array (items : List Value)
  | object (entries : List (String × Value))

/-! ## 2. Kinds -/

inductive Kind
  | null
  | bool (b : Bool)
  | number (n : Number)
  | string (s : String)
  | sequence
  | map
  deriving DecidableEq

def Value.kind : Value → Kind
  | .null => .null
  | .bool b => .bool b
  | .number n => .number n
  | .string s => .string s
  | .array _ => .sequence
  | .object _ => .map

/-- How an error report names what it found. -/
def Kind.describe : Kind → String
  | .null => "null"
  | .bool b => "boolean `" ++ (if b then "true" else "false") ++ "`"
  | .number (.integer n) => "integer `" ++ String.ofList (Decimal.integerText n) ++ "`"
  | .number (.float x) => "floating point `" ++ String.ofList (Decimal.floatText x) ++ "`"
  | .string s => "string " ++ Text.quote s
  | .sequence => "sequence"
  | .map => "map"

end LoadingIndicator.Json
