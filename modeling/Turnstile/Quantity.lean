import Turnstile.Decimal.Shortest
import Turnstile.Time
namespace Turnstile

-- Tokens are doubles where the limiter runs, and rationals, with the same operations read exactly, where it is reasoned about.
class Quantity (ν : Type) extends Add ν, Sub ν, Mul ν, Div ν where
  ofNat : Nat → ν
  ofDouble : Float → ν
  -- A billionth of a token is forgiven.
  slack : ν
  atLeast : ν → ν → Bool
  smaller : ν → ν → ν
  larger : ν → ν → ν
  whole : ν → Nat
  roundUp : ν → Nat

namespace Quantity

-- Of two operands of which one is not a number, the smaller and the larger are the other one; a conversion
-- to a whole number drops the fraction and stops at the bounds.
instance : Quantity Float where
  ofNat n := n.toUInt64.toFloat
  ofDouble f := f
  slack := 1e-9
  atLeast a b := decide (b ≤ a)
  smaller a b := if a.isNaN then b else if b.isNaN then a else if a ≤ b then a else b
  larger a b := if a.isNaN then b else if b.isNaN then a else if a ≤ b then b else a
  whole f := f.toUInt32.toNat
  roundUp f := f.ceil.toUInt64.toNat

def ratOfDouble (f : Float) : Rat :=
  match Decimal.stored f with
  | .finite negative m q =>
    let size : Rat := if q < 0 then m / Nat.pow 2 (-q).toNat else m * Nat.pow 2 q.toNat
    if negative then -size else size
  | _ => 0

instance : Quantity Rat where
  ofNat n := n
  ofDouble := ratOfDouble
  slack := 1 / 1000000000
  atLeast a b := decide (b ≤ a)
  smaller a b := if a ≤ b then a else b
  larger a b := if a ≤ b then b else a
  whole a := min a.floor.toNat halfMax
  roundUp a := min a.ceil.toNat wordMax

end Quantity

end Turnstile
