import LoxTokens.Double.Rounding

/-!
The shortest decimal of a finite `Double`: the fewest digits that read back as the same number,
and of those the nearest to it. Of two equally near ones the larger is taken.
-/

namespace LoxTokens.Double

-- The place of the decimal point of `n / d`, as in `Decimal.point`.
def point (n d : Nat) : Int :=
  if d ≤ n then
    (Nat.toDigits 10 (n / d)).length
  else
    1 - ((Nat.toDigits 10 ((d - 1) / n)).length : Int)

/-- The nearest multiple of `10 ^ grid` that reads back as `x`, for an `x` without a sign. Only
    the two multiples beside `x` can do so. -/
def onGrid? (x : Double) (grid : Int) : Option Decimal :=
  let n := x.num * Nat.pow 10 (-grid).toNat
  let d := x.den * Nat.pow 10 grid.toNat
  let below : Decimal := ⟨n / d, grid⟩
  let above : Decimal := ⟨n / d + 1, grid⟩
  if ofDecimal below = x then
    if ofDecimal above = x ∧ d ≤ 2 * (n % d) then some above else some below
  else
    if ofDecimal above = x then some above else none

-- All digits of the number. A fraction of a power of two has finitely many.
def exact (x : Double) : Decimal :=
  if 0 ≤ x.exponent then
    ⟨x.num, 0⟩
  else
    ⟨x.significand * Nat.pow 5 (-x.exponent).toNat, x.exponent⟩

/-- The digits of the magnitude of a finite number. Seventeen always suffice. -/
def shortest (x : Double) : Decimal :=
  let x := x.abs
  if x.isZero then ⟨0, 0⟩ else
    let point := point x.num x.den
    ((List.range 17).findSome? fun i : Nat => x.onGrid? (point - 1 - i)).getD x.exact |>.trim

end LoxTokens.Double
