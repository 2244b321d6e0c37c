namespace Turnstile.Decimal

inductive Stored where
  | finite (negative : Bool) (m : Nat) (q : Int)
  | infinite (negative : Bool)
  | notANumber
deriving DecidableEq, Repr

def hiddenBit : Nat := 4503599627370496

def storedOfBits (bits : Nat) : Stored :=
  let negative := bits.testBit 63
  let exponent := (bits >>> 52) % 2048
  let fraction := bits % hiddenBit
  if exponent = 2047 then if fraction = 0 then .infinite negative else .notANumber
  else if exponent = 0 then .finite negative fraction (-1074)
  else .finite negative (fraction + hiddenBit) ((exponent : Int) - 1075)

def stored (f : Float) : Stored := storedOfBits f.toBits.toNat

-- The reals that round to a double form an interval around it. Grids of one digit, two digits and so on are
-- tried; the first with a point inside wins, of two the nearer one, and an exact tie goes up.
structure Interval where
  low : Nat
  value : Nat
  high : Nat
  den : Nat
  closed : Bool
deriving Repr

-- Below a power of two the next double is half as far.
def rounding (m : Nat) (q : Int) : Interval :=
  let (scale, den) := if q < 2 then (1, Nat.pow 2 (2 - q).toNat) else (Nat.pow 2 (q - 2).toNat, 1)
  let below := if m = hiddenBit ∧ q ≠ -1074 then 1 else 2
  { low := (4 * m - below) * scale
    value := 4 * m * scale
    high := (4 * m + 2) * scale
    den
    closed := m % 2 == 0 }

def digits (n : Nat) : List Char := Nat.toDigits 10 n

def leading (i : Interval) : Int := (digits (i.value * Nat.pow 10 330 / i.den)).length - 330

structure Scientific where
  coefficient : Nat
  exponent : Int
deriving DecidableEq, Repr

def onGrid (i : Interval) (p : Int) : Option Nat :=
  let (unit, widen) := if p < 0 then (i.den, Nat.pow 10 (-p).toNat) else (i.den * Nat.pow 10 p.toNat, 1)
  let (low, value, high) := (i.low * widen, i.value * widen, i.high * widen)
  let inside (c : Nat) : Bool :=
    if i.closed then low ≤ c * unit && c * unit ≤ high else low < c * unit && c * unit < high
  let down := value / unit
  let up := down + 1
  if inside down then
    if inside up && up * unit - value ≤ value - down * unit then some up else some down
  else if inside up then some up else none

def trim : Nat → Scientific → Scientific
  | 0, d => d
  | fuel + 1, d =>
    if d.coefficient ≠ 0 ∧ d.coefficient % 10 = 0 then
      trim fuel ⟨d.coefficient / 10, d.exponent + 1⟩
    else d

-- Seventeen digits tell all doubles apart.
def shortest (i : Interval) : Scientific :=
  let grids := (List.range 17).map fun n => leading i - (n + 1 : Nat)
  match grids.findSome? fun p => (onGrid i p).map fun c => (⟨c, p⟩ : Scientific) with
  | some d => trim 20 d
  | none => ⟨0, 0⟩

def ofFinite (m : Nat) (q : Int) : Scientific :=
  if m = 0 then ⟨0, 0⟩ else shortest (rounding m q)

def positional (d : Scientific) : List Char :=
  let ds := digits d.coefficient
  if 0 ≤ d.exponent then ds ++ List.replicate d.exponent.toNat '0'
  else
    let places := (-d.exponent).toNat
    if places < ds.length then ds.take (ds.length - places) ++ '.' :: ds.drop (ds.length - places)
    else '0' :: '.' :: (List.replicate (places - ds.length) '0' ++ ds)

def plainText (f : Float) : String :=
  match stored f with
  | .notANumber => "NaN"
  | .infinite negative => if negative then "-inf" else "inf"
  | .finite negative m q =>
    String.ofList ((if negative then ['-'] else []) ++
      positional (if m = 0 then ⟨0, 0⟩ else ofFinite m q))

def exponential (d : Scientific) : List Char :=
  let ds := digits d.coefficient
  let exponent := d.exponent + (ds.length - 1 : Nat)
  let mantissa := match ds with
    | [] | [_] => ds
    | first :: rest => first :: '.' :: rest
  let power := (if exponent < 0 then ['-'] else []) ++ digits exponent.natAbs
  mantissa ++ 'e' :: power

def documentText (f : Float) : List Char :=
  match stored f with
  | .notANumber | .infinite _ => "null".toList
  | .finite negative m q =>
    let d := ofFinite m q
    let place := d.exponent + (digits d.coefficient).length
    (if negative then ['-'] else []) ++
      if m = 0 then "0.0".toList
      else if 0 ≤ d.exponent ∧ place ≤ 16 then positional d ++ ['.', '0']
      else if -5 < place ∧ place ≤ 16 then positional d
      else exponential d

end Turnstile.Decimal
