/-
# Numbers as they are written

A number in a text is a sign, digits, perhaps a fraction and perhaps an exponent.  Its digits
are kept as one whole number below 2^64; digits that no longer fit are dropped, those before
the point each raising the exponent by one.  A number without fraction and exponent, of which
no digit was dropped, is whole if it fits 64 bits with its sign; every other number is the
float that the kept digits give when they are multiplied or divided by a power of ten.

* `keepDigits_append`: no digit is lost, whether kept or dropped.
-/
import LoadingIndicator.Json.Value

namespace LoadingIndicator.Json

/-! ## 1. The written form -/

/-- A number as it is written.  The fraction and the exponent are absent or given. -/
structure Literal where
  negative : Bool
  whole : List Char
  fraction : Option (List Char)
  exponent : Option Int
  deriving DecidableEq

def digitValue (c : Char) : Nat := c.toNat - 0x30

/-- The value of a run of decimal digits after those that gave `n`. -/
def decimalFrom (n : Nat) (ds : List Char) : Nat := ds.foldl (fun m d => 10 * m + digitValue d) n

/-! ## 2. The kept digits -/

/-- Takes digits as long as their number stays below 2^64; gives the number and the digits
that are dropped. -/
def keepDigits (n : Nat) : List Char → Nat × List Char
  | [] => (n, [])
  | d :: ds => if 10 * n + digitValue d < Nat.pow 2 64 then keepDigits (10 * n + digitValue d) ds
    else (n, d :: ds)

/-- **No digit is lost**: the kept number is that of a run of digits which the dropped ones
complete. -/
theorem keepDigits_append (n : Nat) (ds : List Char) :
    ∃ kept, ds = kept ++ (keepDigits n ds).2 ∧ (keepDigits n ds).1 = decimalFrom n kept := by
  induction ds generalizing n with
  | nil => exact ⟨[], rfl, rfl⟩
  | cons d ds ih =>
    by_cases h : 10 * n + digitValue d < Nat.pow 2 64
    · obtain ⟨kept, happ, hval⟩ := ih (10 * n + digitValue d)
      refine ⟨d :: kept, ?_, ?_⟩
      · rw [keepDigits, if_pos h, List.cons_append, ← happ]
      · rw [keepDigits, if_pos h, hval]
        rfl
    · refine ⟨[], ?_, ?_⟩
      · rw [keepDigits, if_neg h]
        rfl
      · rw [keepDigits, if_neg h]
        rfl

/-! ## 3. The number meant -/

def tenTo (k : Nat) : Float := Float.ofScientific 1 false k

/-- The float `n * 10 ^ k`: `n` rounded, then multiplied or divided once by the rounded power,
or divided twice where the power is beyond the floats.  Nothing where the result is too large;
beyond -616 every number below 2^64 has become zero. -/
def scale? (n : Nat) (k : Int) : Option Float :=
  let x := n.toUInt64.toFloat
  if 0 ≤ k then
    if n = 0 then some x
    else if k ≤ 308 then
      let y := x * tenTo k.toNat
      if y.isInf then none else some y
    else none
  else if -308 ≤ k then some (x / tenTo (-k).toNat)
  else if -616 ≤ k then some (x / tenTo 308 / tenTo (-k - 308).toNat)
  else some 0.0

def signed (negative : Bool) (x : Float) : Float := if negative then -x else x

/-- The number that a written number means; nothing where it is too large for a float. -/
def Literal.number? (l : Literal) : Option Number :=
  let whole := keepDigits 0 l.whole
  match l.fraction, l.exponent, whole.2 with
  | none, none, [] =>
    if l.negative then
      if whole.1 = 0 ∨ Nat.pow 2 63 < whole.1 then
        some (.float (signed true whole.1.toUInt64.toFloat))
      else some (.integer (-(whole.1 : Int)))
    else some (.integer whole.1)
  | _, _, _ =>
    let digits := l.fraction.getD []
    let all := keepDigits whole.1 digits
    let shift : Int := whole.2.length - (digits.length - all.2.length : Nat)
    (scale? all.1 (shift + l.exponent.getD 0)).map fun x => .float (signed l.negative x)

end LoadingIndicator.Json
