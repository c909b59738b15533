/-
# The sizes of an indicator

An indicator comes in three sizes.  Each has a short name, by which it is shown, a long name,
which only people write, and the classes that give it its dimensions.  The names by which a size
is stored are a table of their own, which agrees with the short names (`storedName_eq_name`).

Main statements:

* `name_injective`, `dimensions_injective`: names and dimensions tell the sizes apart;
* `mem_all`: the list of all sizes holds every one.
-/

namespace LoadingIndicator

/-! ## 1. The type -/

/-- How large an indicator is. -/
inductive Size
  | small
  | medium
  | large
  deriving DecidableEq

namespace Size

/-- The size of an indicator for which none is given. -/
def standard : Size := .medium

instance : Inhabited Size := ⟨standard⟩

/-- All sizes, in ascending order. -/
def all : List Size := [.small, .medium, .large]

/-- **The list of all sizes holds every one.** -/
theorem mem_all (z : Size) : z ∈ all := by cases z <;> decide

/-! ## 2. Names and classes -/

/-- The short name, by which a size is shown. -/
def name : Size → String
  | .small => "sm"
  | .medium => "md"
  | .large => "lg"

/-- The long name, which people write and nothing shows. -/
def longName : Size → String
  | .small => "small"
  | .medium => "medium"
  | .large => "large"

/-- The name by which a size is stored. -/
def storedName : Size → String
  | .small => "sm"
  | .medium => "md"
  | .large => "lg"

/-- The name of the size as a constant. -/
def title : Size → String
  | .small => "Small"
  | .medium => "Medium"
  | .large => "Large"

/-- The classes that give an indicator its width and height. -/
def dimensions : Size → String
  | .small => "w-4 h-4"
  | .medium => "w-8 h-8"
  | .large => "w-12 h-12"

/-- **A size is stored by its short name.** -/
theorem storedName_eq_name (z : Size) : z.storedName = z.name := by cases z <;> rfl

theorem name_injective {y z : Size} (h : y.name = z.name) : y = z := by
  revert h
  cases y <;> cases z <;> decide

theorem dimensions_injective {y z : Size} (h : y.dimensions = z.dimensions) : y = z := by
  revert h
  cases y <;> cases z <;> decide

/-! ## 3. Counting -/

/-- How many different sizes a list holds. -/
def distinct (zs : List Size) : Nat := zs.eraseDups.length

/-- How often a list holds the standard size. -/
def standards (zs : List Size) : Nat := zs.count standard

end Size

end LoadingIndicator
