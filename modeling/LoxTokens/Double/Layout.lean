import LoxTokens.Double.Shortest

/-!
The two texts of a number. Both show the shortest digits: the plain one always in place, the
other with a mark of being fractional, and with an exponent once there would be many zeros.
-/

namespace LoxTokens.Double

structure Layout where
  places     : Nat                -- the least number of digits after the point
  positional : Option (Int × Int) -- the places of the point written without exponent, all if none

namespace Layout

def isPositional (l : Layout) (d : Decimal) : Bool :=
  d.coefficient == 0 || l.positional.all fun (least, most) => least ≤ d.point && d.point ≤ most

def magnitude (l : Layout) (x : Double) : List Char :=
  let d := x.shortest
  if l.isPositional d then d.positional l.places else d.scientific

def render (l : Layout) (x : Double) : List Char :=
  if x.isNaN then
    ['N', 'a', 'N']
  else
    let text := if x.isInfinite then ['i', 'n', 'f'] else l.magnitude x
    if x.isNegative then '-' :: text else text

end Layout

def text (x : Double) : String :=
  String.ofList (Layout.render ⟨0, none⟩ x)

-- From a ten-thousandth on and below `10 ^ 16` without exponent.
def inspect (x : Double) : String :=
  String.ofList (Layout.render ⟨1, some (-3, 16)⟩ x)

end LoxTokens.Double
