import Turnstile.Time
namespace Turnstile.Json

structure Numeral where
  negative : Bool
  whole : List Nat
  fraction : List Nat
  power : Option (Bool × List Nat)
deriving DecidableEq, Repr

inductive Number where
  | natural (n : Nat)
  -- So `negSucc 0` is minus one.
  | negSucc (n : Nat)
  | double (f : Float)
deriving Repr

namespace Numeral

def digitsValue (digits : List Nat) : Nat := digits.foldl (fun n d => n * 10 + d) 0

-- Digits enter the significand while it fits one word; also how many were left out.
def takeDigits (significand : Nat) : List Nat → Nat × Nat
  | [] => (significand, 0)
  | d :: rest =>
    if significand * 10 + d ≤ wordMax then takeDigits (significand * 10 + d) rest
    else (significand, rest.length + 1)

def tenTo (n : Nat) : Float := Float.ofScientific 1 false n

def widest : Nat := 308

def scaleDown (f : Float) (places : Nat) : Float :=
  if places ≤ widest then f / tenTo places
  else if f == 0 then f
  else scaleDown (f / tenTo widest) (places - widest)
termination_by places
decreasing_by simp only [widest] at *; omega

def scaleUp (f : Float) (places : Nat) : Option Float :=
  if places ≤ widest then
    let product := f * tenTo places
    if product.isInf then none else some product
  else if f == 0 then some f else none

def powerValue (n : Numeral) : Int :=
  match n.power with
  | none => 0
  | some (true, digits) => -(digitsValue digits : Int)
  | some (false, digits) => digitsValue digits

def toDouble? (n : Numeral) : Option Float :=
  let (head, skipped) := takeDigits 0 n.whole
  let (significand, unread) := takeDigits head n.fraction
  let places : Int := skipped - (n.fraction.length - unread : Nat) + n.powerValue
  let f := significand.toUInt64.toFloat
  let size := if places < 0 then some (scaleDown f places.natAbs) else scaleUp f places.toNat
  size.map fun f => if n.negative then -f else f

def isWhole (n : Numeral) : Bool := n.fraction.isEmpty && n.power.isNone

-- Minus zero is a double.
def number? (n : Numeral) : Option Number :=
  let whole := digitsValue n.whole
  if n.isWhole && !n.negative && whole ≤ wordMax then some (.natural whole)
  else if n.isWhole && n.negative && 0 < whole && whole ≤ signedMax + 1 then some (.negSucc (whole - 1))
  else n.toDouble?.map .double

end Numeral

namespace Number

def toFloat : Number → Float
  | .natural n => n.toUInt64.toFloat
  | .negSucc n => -(n + 1).toUInt64.toFloat
  | .double f => f

def natural? (bound : Nat) : Number → Option Nat
  | .natural n => if n ≤ bound then some n else none
  | _ => none

end Number

end Turnstile.Json
