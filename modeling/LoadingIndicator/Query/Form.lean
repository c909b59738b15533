/-
# Form-encoded queries

The query of an address is a list of named values.  Parts are separated by `&`, empty parts do
not count, and a part is split at its first `=`.  In a name or a value a plus sign stands for a
space and a percent sign with two hexadecimal digits for a byte; a percent sign without them
stands for itself.  The bytes are then read as UTF-8, without refusal.

The query is split before anything in it is decoded, so that what is escaped never separates,
and a part that breaks off cannot reach into the next one.

Main statements:

* `pairsOf_append_amp`: the named values of two queries joined by `&` are those of the one and
  then those of the other;
* `lookup?_append`: the first list that has a name decides its value;
* `lookup?_eq_lookup`: a name is looked up as in any list of pairs.
-/
import LoadingIndicator.Text.Hex
import LoadingIndicator.Text.Utf8

namespace LoadingIndicator.Query

open Text (hexPair?)

/-! ## 1. Splitting -/

/-- The parts of a text between the separators; a text without a separator is one part. -/
def splitAll (sep : Char) : List Char → List (List Char)
  | [] => [[]]
  | c :: cs =>
    if c = sep then [] :: splitAll sep cs
    else
      match splitAll sep cs with
      | [] => [[c]]
      | part :: parts => (c :: part) :: parts

/-- A text before and after its first separator; without one, nothing comes after. -/
def splitFirst (sep : Char) (cs : List Char) : List Char × List Char :=
  (cs.takeWhile (· != sep), (cs.dropWhile (· != sep)).drop 1)

/-! ## 2. Decoding -/

/-- The bytes that a name or a value stands for. -/
def formBytes : List Char → List UInt8
  | [] => []
  | '+' :: cs => 0x20 :: formBytes cs
  | '%' :: a :: b :: cs =>
    match hexPair? a b with
    | some n => UInt8.ofNat n :: formBytes cs
    | none => 0x25 :: formBytes (a :: b :: cs)
  | c :: cs => String.utf8EncodeChar c ++ formBytes cs

def decode (cs : List Char) : String := Text.Utf8.decode (formBytes cs)

/-- The name and the value of a part. -/
def decodePart (part : List Char) : String × String :=
  (decode (splitFirst '=' part).1, decode (splitFirst '=' part).2)

/-! ## 3. Queries -/

/-- The named values of a query behind its question mark. -/
def pairsOf (cs : List Char) : List (String × String) :=
  ((splitAll '&' cs).filter (! ·.isEmpty)).map decodePart

/-- A query without the question mark in front. -/
def withoutMark : List Char → List Char
  | '?' :: cs => cs
  | cs => cs

/-- The named values of a query. -/
def pairs (query : String) : List (String × String) := pairsOf (withoutMark query.toList)

/-- The value of the first pair with the name. -/
def lookup? (name : String) (ps : List (String × String)) : Option String :=
  (ps.find? fun p => p.1 == name).map Prod.snd

/-- The value that a query gives to a name. -/
def get? (query : String) (name : String) : Option String := lookup? name (pairs query)

/-! ## 4. Joined queries -/

theorem withoutMark_of_head {cs : List Char} (h : cs.head? ≠ some '?') : withoutMark cs = cs := by
  rcases cs with _ | ⟨c, cs⟩
  · rfl
  · rw [withoutMark]
    rintro rest ⟨rfl, -⟩
    exact h rfl

theorem splitAll_ne_nil (sep : Char) (cs : List Char) : splitAll sep cs ≠ [] := by
  cases cs with
  | nil => simp [splitAll]
  | cons c cs =>
    rw [splitAll]
    split
    · simp
    · split <;> simp

/-- A separator ends a part: what stands on its two sides is split apart. -/
theorem splitAll_append_sep (sep : Char) (xs ys : List Char) :
    splitAll sep (xs ++ sep :: ys) = splitAll sep xs ++ splitAll sep ys := by
  induction xs with
  | nil => simp [splitAll]
  | cons x xs ih =>
    by_cases hx : x = sep
    · simp [splitAll, hx, ih]
    · rcases hs : splitAll sep xs with _ | ⟨part, parts⟩
      · exact absurd hs (splitAll_ne_nil sep xs)
      · simp [splitAll, hx, ih, hs]

/-- The named values of two queries joined by `&` are those of the one and then the other. -/
theorem pairsOf_append_amp (xs ys : List Char) :
    pairsOf (xs ++ '&' :: ys) = pairsOf xs ++ pairsOf ys := by
  simp [pairsOf, splitAll_append_sep]

/-- **Of two lists of named values the first that has the name decides.** -/
theorem lookup?_append (name : String) (ps qs : List (String × String)) :
    lookup? name (ps ++ qs) = (lookup? name ps).or (lookup? name qs) := by
  rw [lookup?, lookup?, lookup?, List.find?_append]
  cases ps.find? fun p => p.1 == name <;> rfl

/-- A name is looked up as in any list of pairs. -/
theorem lookup?_eq_lookup (name : String) (ps : List (String × String)) :
    lookup? name ps = ps.lookup name := by
  induction ps with
  | nil => rfl
  | cons p ps ih =>
    rw [lookup?] at ih ⊢
    rw [List.lookup_cons, List.find?_cons]
    by_cases hname : p.1 = name
    · rw [beq_iff_eq.mpr hname, beq_iff_eq.mpr hname.symm]
      rfl
    · rw [beq_false_of_ne hname, beq_false_of_ne (Ne.symm hname)]
      exact ih

end LoadingIndicator.Query
