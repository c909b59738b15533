/-
# The shortest decimal of a float

A finite float stands for every real number that rounds to it.  Its shortest decimal is the one
with the fewest digits among those, that is, a point of the coarsest decimal grid that meets
them; of two such points it is the nearer one, and of two equally near ones the even multiple
of the grid's step.

All comparisons are made between natural numbers, after scaling the float, the bounds of its
interval and the grid by one common factor.

* `Binary.inside_of_hit?`: a point that is found lies in the interval;
* `Binary.coarsest_of_shortest?`: no coarser grid that was searched has such a point.

A decimal is written without an exponent where its first digit stands at most five places
behind the point and at most sixteen before it, and with an exponent elsewhere.

* `floatText_head`: whatever the layout, the text begins with a minus sign or a digit.
-/
import LoadingIndicator.Decimal.Integer

namespace LoadingIndicator.Decimal

/-! ## 1. A float as a multiple of a power of two -/

/-- The number `mantissa * 2 ^ exponent`. -/
structure Binary where
  mantissa : Nat
  exponent : Int
  deriving DecidableEq

/-- The size of a finite float, without its sign. -/
def Binary.ofFloat (x : Float) : Binary :=
  let bits : Nat := x.toBits.toNat
  let fraction : Nat := bits % Nat.pow 2 52
  let power : Nat := bits / Nat.pow 2 52 % Nat.pow 2 11
  if power = 0 then ⟨fraction, -1074⟩ else ⟨fraction + Nat.pow 2 52, (power : Int) - 1075⟩

/-- Whether a float carries a minus sign; zero has one too. -/
def isNegative (x : Float) : Bool := decide (Nat.pow 2 63 ≤ x.toBits.toNat)

/-! ## 2. The interval and the grids -/

namespace Binary

/-- How far below the number the reals still round to it, in quarters of its last binary
place: half a place, but a quarter where the places below are half as wide. -/
def slackBelow (b : Binary) : Nat :=
  if b.mantissa = Nat.pow 2 52 ∧ -1074 < b.exponent then 1 else 2

/-- The step of the grid of the multiples of `10 ^ k`, scaled. -/
def step (b : Binary) (k : Int) : Nat := Nat.pow 10 k.toNat * Nat.pow 2 (2 - b.exponent).toNat

/-- A quarter of the last binary place, scaled. -/
def quarter (b : Binary) (k : Int) : Nat := Nat.pow 10 (-k).toNat * Nat.pow 2 (b.exponent - 2).toNat

def value (b : Binary) (k : Int) : Nat := 4 * b.mantissa * b.quarter k

/-- Whether `d * 10 ^ k` rounds to the number.  The ends of the interval do exactly when the
mantissa is even. -/
def inside (b : Binary) (k : Int) (d : Nat) : Bool :=
  let low := (4 * b.mantissa - b.slackBelow) * b.quarter k
  let high := (4 * b.mantissa + 2) * b.quarter k
  let point := d * b.step k
  if b.mantissa % 2 = 0 then decide (low ≤ point) && decide (point ≤ high)
  else decide (low < point) && decide (point < high)

/-- Whether the number is nearer to the grid's point above it than to its point `d` below it;
where it is as near to both, whether the one above is even. -/
def roundsUp (b : Binary) (k : Int) (d : Nat) : Bool :=
  let toBelow := b.value k - d * b.step k
  let toAbove := (d + 1) * b.step k - b.value k
  decide (toAbove < toBelow) || (decide (toAbove = toBelow) && decide ((d + 1) % 2 = 0))

/-- The point of the grid of `10 ^ k` that stands for the number, if one rounds to it.  Only
the two neighbours of the number need be looked at; a tie goes to the even one. -/
def hit? (b : Binary) (k : Int) : Option Nat :=
  let below := b.value k / b.step k
  let above := below + 1
  if b.inside k below then
    if b.inside k above ∧ b.roundsUp k below then some above else some below
  else if b.inside k above then some above
  else none

/-- The grids that are searched, coarsest first: from above the largest float down to the
seventeenth digit of the smallest. -/
def grids : List Int := (List.range 653).map fun i : Nat => 309 - (i : Int)

/-- The shortest decimal `d * 10 ^ k` of the number. -/
def shortest? (b : Binary) : Option (Nat × Int) :=
  grids.findSome? fun k => (b.hit? k).map (·, k)

/-! ## 3. What is found -/

/-- **A point that is found rounds to the number.** -/
theorem inside_of_hit? {b : Binary} {k : Int} {d : Nat} (h : b.hit? k = some d) :
    b.inside k d = true := by
  simp only [hit?] at h
  split at h
  · rename_i hbelow
    split at h
    · rename_i habove
      cases h
      exact habove.1
    · cases h
      exact hbelow
  · split at h
    · rename_i habove
      cases h
      exact habove
    · cases h

/-- **No coarser grid has a point**: every grid that is searched before the one of the result
has none. -/
theorem coarsest_of_shortest? {b : Binary} {d : Nat} {k : Int} (h : b.shortest? = some (d, k)) :
    ∃ coarser finer, grids = coarser ++ k :: finer ∧ ∀ j ∈ coarser, b.hit? j = none := by
  obtain ⟨coarser, j, finer, hgrids, hj, hnone⟩ := List.findSome?_eq_some_iff.mp h
  obtain ⟨e, -, he⟩ := Option.map_eq_some_iff.mp hj
  cases he
  exact ⟨coarser, finer, hgrids, fun i hi => by simpa using hnone i hi⟩

end Binary

/-! ## 4. Layout -/

/-- The number `d * 10 ^ k` without an exponent and always with a decimal point. -/
def positional (d : Nat) (k : Int) : List Char :=
  let digits := Nat.toDigits 10 d
  let places := (-k).toNat
  if places = 0 then digits ++ List.replicate k.toNat '0' ++ ['.', '0']
  else if places < digits.length then
    digits.take (digits.length - places) ++ '.' :: digits.drop (digits.length - places)
  else '0' :: '.' :: List.replicate (places - digits.length) '0' ++ digits

/-- The power of ten of the first digit of `d * 10 ^ k`. -/
def leadingPower (d : Nat) (k : Int) : Int := k + (Nat.toDigits 10 d).length - 1

/-- A power of ten with its sign, which is never left out. -/
def exponentText : Int → List Char
  | .ofNat n => '+' :: Nat.toDigits 10 n
  | .negSucc n => '-' :: Nat.toDigits 10 (n + 1)

/-- The number `d * 10 ^ k` with its first digit before the point and the power of ten of that
digit as exponent.  A single digit has no point. -/
def scientific (d : Nat) (k : Int) : List Char :=
  let digits := Nat.toDigits 10 d
  let fraction := if digits.length ≤ 1 then [] else '.' :: digits.drop 1
  digits.take 1 ++ fraction ++ 'e' :: exponentText (leadingPower d k)

/-- The number `d * 10 ^ k` laid out by its size: with an exponent from `10 ^ 16` on and
below `10 ^ (-5)`, and positional between them. -/
def decimalText (d : Nat) (k : Int) : List Char :=
  if -5 ≤ leadingPower d k ∧ leadingPower d k < 16 then positional d k else scientific d k

/-- A finite float in as few digits as read back; zero keeps its sign. -/
def floatText (x : Float) : List Char :=
  let binary := Binary.ofFloat x
  let size := if binary.mantissa = 0 then (0, 0) else binary.shortest?.getD (0, 0)
  (if isNegative x then ['-'] else []) ++ decimalText size.1 size.2

/-! ## 5. How the text begins -/

theorem positional_head (d : Nat) (k : Int) :
    ∃ c cs, positional d k = c :: cs ∧ c.isDigit = true := by
  obtain ⟨c, cs, hdigits, hc⟩ := toDigits_head d
  simp only [positional, hdigits]
  split
  · exact ⟨c, _, rfl, hc⟩
  · split
    · rename_i hplaces
      -- at least one digit stands before the point
      obtain ⟨n, hn⟩ : ∃ n, (c :: cs).length - (-k).toNat = n + 1 :=
        Nat.exists_eq_add_one_of_ne_zero (by omega)
      rw [hn]
      exact ⟨c, _, rfl, hc⟩
    · exact ⟨'0', _, rfl, by decide⟩

theorem scientific_head (d : Nat) (k : Int) :
    ∃ c cs, scientific d k = c :: cs ∧ c.isDigit = true := by
  obtain ⟨c, cs, hdigits, hc⟩ := toDigits_head d
  simp only [scientific, hdigits]
  exact ⟨c, _, rfl, hc⟩

/-- **The text of a float begins with a minus sign or a digit.** -/
theorem floatText_head (x : Float) :
    ∃ c cs, floatText x = c :: cs ∧ (c = '-' ∨ c.isDigit = true) := by
  have hsize : ∀ d k, ∃ c cs, decimalText d k = c :: cs ∧ c.isDigit = true := by
    intro d k
    rw [decimalText]
    split
    · exact positional_head d k
    · exact scientific_head d k
  rw [floatText]
  split
  · exact ⟨'-', _, rfl, Or.inl rfl⟩
  · obtain ⟨c, cs, h, hc⟩ := hsize _ _
    exact ⟨c, cs, h, Or.inr hc⟩

end LoadingIndicator.Decimal
