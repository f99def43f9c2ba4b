import LoxTokens.Decimal
import LoxTokens.Double.Basic

/-!
Rounding a fraction of whole numbers to the nearest `Double`. Halfway cases go to the even
significand, what is too large becomes infinite and what is too small becomes zero.
-/

namespace LoxTokens

/-- The whole number nearest to `n / d`, the even one of two. -/
def divRound (n d : Nat) : Nat :=
  let q := n / d
  if 2 * (n % d) < d then q
  else if d < 2 * (n % d) then q + 1
  else q + q % 2

/-- The whole part of the binary logarithm of `n / d`. -/
def floorLog2 (n d : Nat) : Int :=
  let k := (n.log2 : Int) - d.log2
  if d * Nat.pow 2 k.toNat ≤ n * Nat.pow 2 (-k).toNat then k else k - 1

namespace Double

-- The power of two of the last place that a number near `n / d` has.
def lastPlace (n d : Nat) : Int :=
  max (-1074) (floorLog2 n d - 52)

-- With the exponent field counted from the last place, a significand that is rounded up to
-- the next power of two carries into the field by itself.
def ofRatio (n d : Nat) : Double :=
  if n = 0 then ofMagnitude 0 else
    let place       := lastPlace n d
    let significand := divRound (n * Nat.pow 2 (-place).toNat) (d * Nat.pow 2 place.toNat)
    ofMagnitude (min infinityBits ((place + 1074).toNat * Nat.pow 2 52 + significand))

def ofDecimal (d : Decimal) : Double :=
  ofRatio d.num d.den

end Double
end LoxTokens
