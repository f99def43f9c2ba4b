/-!
Binary floating-point numbers of 64 bits: a sign, eleven bits of exponent and 52 bits of
fraction. Everything is read off the bits with whole numbers.
-/

namespace LoxTokens

structure Double where
  bits : UInt64
  deriving DecidableEq

namespace Double

def isNegative (x : Double) : Bool :=
  Nat.pow 2 63 ≤ x.bits.toNat

-- The bits without the sign. They order the magnitudes.
def magnitude (x : Double) : Nat :=
  x.bits.toNat % Nat.pow 2 63

def ofMagnitude (bits : Nat) : Double :=
  ⟨UInt64.ofNat bits⟩

def abs (x : Double) : Double :=
  ofMagnitude x.magnitude

def infinityBits : Nat := 0x7ff0000000000000

def isNaN (x : Double) : Bool :=
  infinityBits < x.magnitude

def isInfinite (x : Double) : Bool :=
  x.magnitude = infinityBits

def isFinite (x : Double) : Bool :=
  x.magnitude < infinityBits

def isZero (x : Double) : Bool :=
  x.magnitude = 0

-- The magnitude of a finite number is `significand * 2 ^ exponent`. Below the normal range the
-- leading bit is gone and the exponent stays at its least value.
def significand (x : Double) : Nat :=
  if x.magnitude < Nat.pow 2 52 then x.magnitude else x.magnitude % Nat.pow 2 52 + Nat.pow 2 52

def exponent (x : Double) : Int :=
  (max (x.magnitude / Nat.pow 2 52) 1 : Nat) - 1075

-- The magnitude of a finite number as a fraction of whole numbers.
def num (x : Double) : Nat :=
  x.significand * Nat.pow 2 x.exponent.toNat

def den (x : Double) : Nat :=
  Nat.pow 2 (-x.exponent).toNat

/-- Numeric equality: nothing equals a NaN, and the two zeros are equal. -/
def equal (x y : Double) : Bool :=
  !x.isNaN && !y.isNaN && (x.bits == y.bits || x.isZero && y.isZero)

end Double
end LoxTokens
