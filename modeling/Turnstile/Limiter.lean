import Turnstile.Quantity
import Turnstile.Table
namespace Turnstile

inductive Decision where
  | allowed (left : Nat)
  | denied (wait : Duration)
deriving DecidableEq, Repr

def Decision.isAllowed : Decision → Bool
  | .allowed _ => true
  | .denied _ => false

structure Bucket (ν : Type) where
  tokens : ν
  seen : Nat

structure Limiter (ν : Type) where
  rate : ν
  burst : ν
  buckets : Table (Bucket ν)

namespace Limiter

variable {ν : Type} [Quantity ν]

def start (rate : ν) (burst : Nat) : Limiter ν := ⟨rate, Quantity.ofNat burst, .empty⟩

def tokensAt (l : Limiter ν) (now : Nat) (b : Bucket ν) : ν :=
  Quantity.smaller
    (b.tokens + Quantity.ofNat (now - b.seen) * l.rate / Quantity.ofNat 1000) l.burst

def acquire (l : Limiter ν) (now : Nat) (client : String) : Decision × Limiter ν :=
  let bucket := (l.buckets.get? client).getD ⟨l.burst, now⟩
  let tokens := l.tokensAt now bucket
  -- A clock that went back must not earn the same time twice.
  let seen := max bucket.seen now
  if Quantity.atLeast (tokens + Quantity.slack) (Quantity.ofNat 1) then
    let left := Quantity.larger (tokens - Quantity.ofNat 1) (Quantity.ofNat 0)
    (.allowed (Quantity.whole left), { l with buckets := l.buckets.insert client ⟨left, seen⟩ })
  else
    let wait := (Quantity.ofNat 1 - tokens) / l.rate * Quantity.ofNat 1000
    (.denied (.ofMillis (Quantity.roundUp wait)),
      { l with buckets := l.buckets.insert client ⟨tokens, seen⟩ })

-- Buckets are cut to the new size when they are next looked at.
def setLimits (l : Limiter ν) (rate : ν) (burst : Nat) : Limiter ν :=
  { l with rate, burst := Quantity.ofNat burst }

def evictIdle (l : Limiter ν) (now idle : Nat) : Nat × Limiter ν :=
  let buckets := l.buckets.filter fun _ b =>
    !(Quantity.atLeast (l.tokensAt now b) l.burst && idle ≤ now - b.seen)
  (l.buckets.size - buckets.size, { l with buckets })

def tracked (l : Limiter ν) : Nat := l.buckets.size

def available (l : Limiter ν) (now : Nat) (client : String) : Option ν :=
  (l.buckets.get? client).map (l.tokensAt now)

end Limiter

end Turnstile
