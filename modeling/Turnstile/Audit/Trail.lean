import Turnstile.Audit.Event
namespace Turnstile

structure Trail where
  capacity : Nat
  pending : List Event
  dropped : Nat
deriving Repr

namespace Trail

def make (capacity : Nat) : Trail := ⟨max capacity 1, [], 0⟩

def emit (t : Trail) (e : Event) : Trail :=
  if t.pending.length < t.capacity then { t with pending := t.pending ++ [e] }
  else { t with dropped := t.dropped + 1 }

def emitAll (t : Trail) (events : List Event) : Trail := events.foldl emit t

end Trail

inductive Medium where
  | memory (events : List Event)
  | lines (file : String)
  | log
  | unwritable
deriving Repr

-- The numbers of the calls that are to fail, and how often the sink was called.
structure Sink where
  medium : Medium
  failing : List Nat
  calls : Nat
deriving Repr

namespace Sink

def ofMedium (medium : Medium) : Sink := ⟨medium, [], 0⟩

def write (m : Medium) (e : Event) : Option Medium :=
  match m with
  | .memory events => some (.memory (events ++ [e]))
  | .lines file => some (.lines (file ++ e.line ++ "\n"))
  | .log => some .log
  | .unwritable => none

def record (s : Sink) (e : Event) : Bool × Sink :=
  let s' := { s with calls := s.calls + 1 }
  if s.failing.contains s.calls then (false, s')
  else match write s.medium e with
    | some medium => (true, { s' with medium })
    | none => (false, s')

def drain (s : Sink) (t : Trail) : Sink × Trail :=
  (t.pending.foldl (fun s e => (s.record e).2) s, { t with pending := [] })

def events (s : Sink) : List Event :=
  match s.medium with
  | .memory events => events
  | _ => []

def file (s : Sink) : String :=
  match s.medium with
  | .lines file => file
  | _ => ""

end Sink

end Turnstile
