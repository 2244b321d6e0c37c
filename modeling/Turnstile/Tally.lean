import Turnstile.Outbox
namespace Turnstile

structure Tally where
  granularity : Duration
  outbox : Outbox
deriving DecidableEq, Repr

namespace Tally

def record (t : Tally) (now : Nat) (client endpoint : String) (outcome : Outcome) : Tally :=
  { t with outbox := t.outbox.send (.window client endpoint (windowStart now t.granularity) outcome) }

def append (t : Tally) (a : LoginAttempt) : Tally := { t with outbox := t.outbox.send (.attempt a) }

def since (t : Tally) (client endpoint : String) (reading : Nat) : Call :=
  .count client endpoint (windowStart reading t.granularity)

end Tally

structure CountReadings where
  counts : Except StoreError Counts
  requests : Except StoreError Nat
  failures : Except StoreError Nat

namespace Tally

def readings {σ : Type} (t : Tally) (client endpoint : String) (reading : Nat) :
    Routine σ CountReadings := do
  -- Three calls and not one: each may meet another fault of the store.
  let all ← Routine.call (t.since client endpoint reading)
  let requests ← Routine.call (t.since client endpoint reading)
  let failures ← Routine.call (t.since client endpoint reading)
  return ⟨all, requests.map Counts.requests, failures.map Counts.failures⟩

end Tally

end Turnstile
