/-!
Decimal numbers, a whole coefficient times a power of ten: read from digits around a point,
written with all digits in place or with an exponent.
-/

namespace LoxTokens

structure Decimal where
  coefficient : Nat
  exponent    : Int
  deriving DecidableEq

namespace Decimal

-- The value as a fraction of whole numbers.
def num (d : Decimal) : Nat :=
  d.coefficient * Nat.pow 10 d.exponent.toNat

def den (d : Decimal) : Nat :=
  Nat.pow 10 (-d.exponent).toNat

theorem den_pos (d : Decimal) : 0 < d.den :=
  Nat.pow_pos (by decide)

def ofDigits (whole fraction : List Char) : Decimal where
  coefficient := Nat.ofDigitChars 10 (whole ++ fraction) 0
  exponent    := -fraction.length

/-- The value of digits, or of digits with a point among them. -/
def read (text : List Char) : Decimal :=
  ofDigits (text.takeWhile Char.isDigit) ((text.dropWhile Char.isDigit).drop 1)

/-- The same value with the shortest coefficient. -/
def trim (d : Decimal) : Decimal :=
  if d.coefficient ≠ 0 ∧ d.coefficient % 10 = 0 then
    trim ⟨d.coefficient / 10, d.exponent + 1⟩
  else
    d
termination_by d.coefficient
decreasing_by omega

-- The place of the point: a positive value lies below `10 ^ point` and not below
-- `10 ^ (point - 1)`.
def point (d : Decimal) : Int :=
  d.exponent + (Nat.toDigits 10 d.coefficient).length

def fractionDigits (width n : Nat) : List Char :=
  if width = 0 then [] else
    let digits := Nat.toDigits 10 n
    List.replicate (width - digits.length) '0' ++ digits

/-- All digits in place, at least `places` of them after the point. -/
def positional (places : Nat) (d : Decimal) : List Char :=
  let whole    := Nat.toDigits 10 (d.num / d.den)
  let fraction := fractionDigits (-d.exponent).toNat (d.num % d.den)
  match fraction ++ List.replicate (places - fraction.length) '0' with
  | []     => whole
  | digits => whole ++ '.' :: digits

/-- One digit before the point and the power of ten after an `e`. -/
def scientific (d : Decimal) : List Char :=
  let power := (toString (d.point - 1)).toList
  match Nat.toDigits 10 d.coefficient with
  | []          => 'e' :: power
  | [digit]     => digit :: 'e' :: power
  | digit :: ds => digit :: '.' :: ds ++ 'e' :: power

end Decimal
end LoxTokens
