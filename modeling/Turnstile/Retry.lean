import Turnstile.Store.Error
namespace Turnstile

structure Retry where
  attempts : Nat
  base : Duration
  maxDelay : Duration
deriving DecidableEq, Repr

namespace Retry

def standardMaxDelay : Duration := .ofSecs 5

def make (attempts : Nat) (base : Duration) (maxDelay : Option Duration) : Retry :=
  ⟨max attempts 1, base, (maxDelay.getD standardMaxDelay).longer base⟩

def delay (r : Retry) (n : Nat) : Duration :=
  if n = 0 then .zero
  else (Duration.ofMillis (satMul r.base.millis (Nat.pow 2 (min (n - 1) 63)))).shorter r.maxDelay

-- As many milliseconds as are drawn of those that may be; a full pause below a millisecond is made as it is.
def jittered (jitter : Bool) (draw : Nat → Nat) (full : Duration) : Duration :=
  if !jitter || full.millis == 0 then full else .ofMillis (draw full.millis)

variable {m : Type → Type} [Monad m] {α : Type}

def executeFrom (r : Retry) (operation : m (Except StoreError α)) (pause : Duration → m Unit) :
    Nat → Nat → m (Except StoreError α)
  | 0, _ => operation
  | left + 1, n => do
    match ← operation with
    | .ok a => return .ok a
    | .error e =>
      if e.isTransient then do
        pause (r.delay n)
        executeFrom r operation pause left (n + 1)
      else return .error e

def execute (r : Retry) (operation : m (Except StoreError α)) (pause : Duration → m Unit) :
    m (Except StoreError α) :=
  executeFrom r operation pause (r.attempts - 1) 1

structure Trace where
  calls : Nat
  pauses : List Duration
deriving DecidableEq, Repr

-- After the last of the outcomes the operation succeeds, with the number of the call.
def rehearse (r : Retry) (outcomes : List (Option StoreError)) :
    Except StoreError Nat × Trace :=
  let operation : StateM Trace (Except StoreError Nat) := fun t =>
    let t' := { t with calls := t.calls + 1 }
    match outcomes[t.calls]? with
    | some (some e) => (.error e, t')
    | _ => (.ok t'.calls, t')
  let pause (d : Duration) : StateM Trace Unit :=
    modify fun t => { t with pauses := t.pauses ++ [d] }
  (r.execute operation pause).run ⟨0, []⟩

end Retry

end Turnstile
