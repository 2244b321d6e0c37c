import Turnstile.Store.Relational
namespace Turnstile

inductive Store where
  | memory (m : Memory)
  | relational (r : Relational)
deriving DecidableEq, Repr

namespace Store

def answer (c : Call) : Store → Except StoreError c.Answer × Store
  | .memory m =>
    let (a, m) := m.answer c
    (.ok a, .memory m)
  | .relational r =>
    let (a, r) := r.answer c
    (a, .relational r)

def outOfReach : Store → StoreError
  | .memory _ => .unavailable "in-memory store switched off"
  | .relational _ => .unavailable "closed"

end Store

abbrev Fault := Option StoreError

structure Backend where
  store : Store
  reachable : Bool
  latency : Nat
  script : List Fault
  calls : Nat
deriving DecidableEq, Repr

inductive Dump where
  | memory (m : Memory)
  | relational (bans : List Ban) (archived attempts : Nat)
deriving Repr

namespace Backend

def ofStore (store : Store) : Backend := ⟨store, true, 0, [], 0⟩

def memory : Backend := ofStore (.memory .empty)

def relational : Backend := ofStore (.relational .empty)

-- A fault of the script is met before the store is reached and leaves it alone.
def arrive (b : Backend) : Fault × Backend :=
  match b.script with
  | [] => (none, { b with calls := b.calls + 1 })
  | fault :: rest => (fault, { b with calls := b.calls + 1, script := rest })

def serve (b : Backend) (c : Call) : Except StoreError c.Answer × Backend :=
  if b.reachable then
    let (a, store) := b.store.answer c
    (a, { b with store })
  else (.error b.store.outOfReach, b)

def patience (b : Backend) (limit : Option Duration) : Nat × Bool :=
  match limit with
  | none => (b.latency, false)
  | some d => if d.millisUp < b.latency then (d.millisUp, true) else (b.latency, false)

-- A caller that gives up leaves the store before it has touched its tables: nothing is done late.
def finish (b : Backend) (c : Call) (limit : Option Duration) : Except StoreError c.Answer × Backend :=
  if (b.patience limit).2 then (.error (.timeout (limit.getD .zero)), b) else b.serve c

def call (b : Backend) (c : Call) (limit : Option Duration) :
    Except StoreError c.Answer × Backend :=
  match b.arrive with
  | (some e, b) => (.error e, b)
  | (none, b) => b.finish c limit

def addFaults (b : Backend) (faults : List Fault) : Backend := { b with script := b.script ++ faults }

def setReachable (b : Backend) (reachable : Bool) : Backend := { b with reachable }

def setLatency (b : Backend) (d : Duration) : Backend := { b with latency := d.millis }

-- Rows stay if they are kept; the script and the count start over.
def reopen (b : Backend) (kept : Bool) : Backend :=
  ofStore (if kept then b.store else match b.store with
    | .memory _ => .memory .empty
    | .relational _ => .relational .empty)

def rowOrder (a b : WindowRow) : Bool :=
  if a.client ≠ b.client then decide (a.client < b.client)
  else if a.endpoint ≠ b.endpoint then decide (a.endpoint < b.endpoint)
  else if a.start ≠ b.start then decide (a.start < b.start)
  else if a.requests ≠ b.requests then decide (a.requests < b.requests)
  else if a.failures ≠ b.failures then decide (a.failures < b.failures)
  else decide (a.throttled ≤ b.throttled)

def dump (b : Backend) : Except StoreError Dump :=
  match b.store with
  | .memory m =>
    .ok (.memory { m with
      windows := m.windows.mergeSort rowOrder
      archived := m.archived.mergeSort rowOrder })
  | .relational r =>
    if b.reachable then .ok (.relational r.bans r.archived.length r.attempts.length)
    else .error b.store.outOfReach

end Backend

end Turnstile
