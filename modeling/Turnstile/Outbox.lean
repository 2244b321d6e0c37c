import Turnstile.Retry
import Turnstile.Routine
namespace Turnstile

inductive Write where
  | window (client endpoint : String) (start : Nat) (outcome : Outcome)
  | attempt (a : LoginAttempt)
  | ban (b : Ban)
  | release (address : String) (reading : Nat) (actor : String) (automatic : Bool)
deriving DecidableEq, Repr

def Write.call : Write → Call
  | .window client endpoint start outcome => .increment client endpoint start outcome
  | .attempt a => .append a
  | .ban b => .upsert b
  | .release address reading actor automatic => .release address reading actor automatic

structure Outbox where
  capacity : Nat
  retry : Retry
  pending : List Write
  applied : Nat
  dropped : Nat
  failed : Nat
deriving DecidableEq, Repr

namespace Outbox

def make (capacity : Nat) (retry : Retry) : Outbox := ⟨max capacity 1, retry, [], 0, 0, 0⟩

def submit (o : Outbox) (w : Write) : Bool × Outbox :=
  if o.pending.length < o.capacity then (true, { o with pending := o.pending ++ [w] })
  else (false, { o with dropped := o.dropped + 1 })

def send (o : Outbox) (w : Write) : Outbox := (o.submit w).2

def takeNext (o : Outbox) : Option Write × Outbox :=
  match o.pending with
  | [] => (none, o)
  | w :: rest => (some w, { o with pending := rest })

def settle {α : Type} (result : Except StoreError α) (o : Outbox) : Outbox :=
  match result with
  | .ok _ => { o with applied := o.applied + 1 }
  | .error _ => { o with failed := o.failed + 1 }

-- Pauses cost nothing here.
def attempt {σ : Type} (retry : Retry) (w : Write) : Routine σ (Except StoreError w.call.Answer) :=
  retry.execute (.call w.call) fun _ => pure ()

-- The write leaves the queue before it is tried, so that its place is free while the store is slow.
def deliver : Routine Outbox Unit := do
  match ← Routine.update takeNext with
  | none => pure ()
  | some w =>
    let o ← Routine.state
    let result ← attempt o.retry w
    Routine.change (settle result)

def deliverMany : Nat → Outbox → Backend → Outbox × Backend
  | 0, o, b => (o, b)
  | n + 1, o, b =>
    let (_, o, b) := deliver.run o b
    deliverMany n o b

def flush (o : Outbox) (b : Backend) : Outbox × Backend := deliverMany o.pending.length o b

end Outbox

end Turnstile
