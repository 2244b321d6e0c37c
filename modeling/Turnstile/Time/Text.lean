import Turnstile.Time
namespace Turnstile.Duration

def padded (width n : Nat) : List Char :=
  let ds := Nat.toDigits 10 n
  List.replicate (width - ds.length) '0' ++ ds

def fractionText (places n : Nat) : List Char :=
  let ds := ((padded places n).reverse.dropWhile (· == '0')).reverse
  if ds.isEmpty then [] else '.' :: ds

-- The largest unit of which there is one whole; what is left follows as a fraction without trailing zeros.
def text (d : Duration) : String :=
  let n := d.nanos
  let form (whole places rest : Nat) (mark : List Char) : String :=
    String.ofList (Nat.toDigits 10 whole ++ fractionText places rest ++ mark)
  if 1000000000 ≤ n then form (n / 1000000000) 9 (n % 1000000000) ['s']
  else if 1000000 ≤ n then form (n / 1000000) 6 (n % 1000000) ['m', 's']
  else if 1000 ≤ n then form (n / 1000) 3 (n % 1000) ['\u00b5', 's']
  else form n 0 0 ['n', 's']

end Turnstile.Duration
