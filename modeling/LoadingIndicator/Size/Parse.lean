/-
# Sizes written by people

A person may write a size by its short or its long name, in letters of either case and with
blanks around it.  A text that names no size is refused with the text itself, neither trimmed
nor lower-cased.  Where a size is optional, as in an attribute, a refused text is reported and
the standard size is taken instead.

Main statements:

* `parse_name`, `parse_longName`: both names are read as their size;
* `value_of_parse`, `parse_eq_error`: a refusal carries the text that was refused.
-/
import LoadingIndicator.Log
import LoadingIndicator.Size
import LoadingIndicator.Text.Blank
import LoadingIndicator.Text.Case
import LoadingIndicator.Text.Quoted

namespace LoadingIndicator

/-! ## 1. Refusals -/

/-- A text that names no size. -/
structure UnknownSize where
  value : String
  deriving DecidableEq

namespace UnknownSize

/-- What a person is told. -/
def message (e : UnknownSize) : String := "Unknown spinner size: " ++ Text.quote e.value

/-- The refusal as a term. -/
def term (e : UnknownSize) : String := "UnknownSize(" ++ Text.quote e.value ++ ")"

/-- The log line for a refusal in whose place the standard size is taken. -/
def warning (e : UnknownSize) : Log.Line :=
  ⟨.warn, e.message ++ ", falling back to " ++ Size.standard.name⟩

theorem warning_eq (e : UnknownSize) :
    e.warning =
      ⟨.warn, "Unknown spinner size: " ++ Text.quote e.value ++ ", falling back to md"⟩ := by
  have hend : ", falling back to " ++ Size.standard.name = ", falling back to md" := by
    decide +kernel
  have htext : e.message ++ ", falling back to " ++ Size.standard.name =
      e.message ++ ", falling back to md" :=
    String.append_assoc.trans (congrArg (e.message ++ ·) hend)
  exact congrArg (Log.Line.mk .warn) htext

end UnknownSize

namespace Size

/-! ## 2. Reading -/

/-- The size that a person means by a name. -/
def ofEitherName? : String → Option Size
  | "sm" | "small" => some .small
  | "md" | "medium" => some .medium
  | "lg" | "large" => some .large
  | _ => none

/-- Reads a size as a person writes it. -/
def parse (s : String) : Except UnknownSize Size :=
  match ofEitherName? (Text.lower (Text.trim s)) with
  | some z => .ok z
  | none => .error ⟨s⟩

/-- Reads an optional size.  Where there is none, or one that is refused, the standard size is
taken; a refusal is reported. -/
def ofAttribute : Option String → Size × List Log.Line
  | none => (standard, [])
  | some s =>
    match parse s with
    | .ok z => (z, [])
    | .error e => (standard, [e.warning])

/-! ## 3. Names are read -/

/-- **The names that people write are the short and the long ones**, each for its own size. -/
theorem ofEitherName?_eq_some_iff {s : String} {z : Size} :
    ofEitherName? s = some z ↔ s = z.name ∨ s = z.longName := by
  constructor
  · intro h
    unfold ofEitherName? at h
    -- the rows of the table, a short and a long name for each size in turn
    split at h <;> cases h
    · exact Or.inl rfl
    · exact Or.inr rfl
    · exact Or.inl rfl
    · exact Or.inr rfl
    · exact Or.inl rfl
    · exact Or.inr rfl
  · rintro (rfl | rfl)
    · cases z <;> rfl
    · cases z <;> rfl

/-- A text is read as a size exactly when, trimmed and lower-cased, it is one of its names. -/
theorem parse_eq_ok_iff {s : String} {z : Size} :
    parse s = .ok z ↔ ofEitherName? (Text.lower (Text.trim s)) = some z := by
  unfold parse
  split
  · rename_i y hy
    simp [hy]
  · rename_i hnone
    simp [hnone]

theorem parse_name (z : Size) : parse z.name = .ok z := by
  rw [parse_eq_ok_iff]
  cases z <;> decide +kernel

theorem parse_longName (z : Size) : parse z.longName = .ok z := by
  rw [parse_eq_ok_iff]
  cases z <;> decide +kernel

/-- **A refusal carries the text that was refused.** -/
theorem value_of_parse {s : String} {e : UnknownSize} (h : parse s = .error e) : e.value = s := by
  unfold parse at h
  split at h
  · cases h
  · cases h
    rfl

theorem parse_eq_error {s : String} (h : ∀ z, parse s ≠ .ok z) : parse s = .error ⟨s⟩ := by
  unfold parse at h ⊢
  split
  · rename_i z hz
    rw [hz] at h
    exact absurd rfl (h z)
  · rfl

/-! ## 4. Reading leniently -/

theorem ofAttribute_of_ok {s : String} {z : Size} (h : parse s = .ok z) :
    ofAttribute (some s) = (z, []) := by
  unfold ofAttribute
  simp only [h]

theorem ofAttribute_of_error {s : String} {e : UnknownSize} (h : parse s = .error e) :
    ofAttribute (some s) = (standard, [e.warning]) := by
  unfold ofAttribute
  simp only [h]

end Size

end LoadingIndicator
