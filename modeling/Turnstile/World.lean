import Turnstile.Gate.Command
namespace Turnstile

structure World (ν : Type) where
  gate : Gate ν
  backend : Backend
  sink : Sink
  blueprint : Blueprint

-- Nothing in a run takes time: a store that is slow is one that a reader gives up on.
inductive Move where
  -- While the command waits for each of its answers, so many queued writes are delivered.
  | command (c : Command) (meanwhile : List Nat)
  | call (c : Call)
  | faults (script : List Fault)
  | reach (on : Bool)
  | slow (latency : Duration)
  | deliver
  | handOver
  | flush
  | restart (b : Blueprint)

namespace Gate

variable {ν : Type}

def setOutbox (o : Outbox) (g : Gate ν) : Gate ν := { g with tally := { g.tally with outbox := o } }

def deliver : Routine (Gate ν) Unit := Outbox.deliver.focus (·.tally.outbox) setOutbox

def handOver (g : Gate ν) (s : Sink) : Gate ν × Sink :=
  let (s, trail) := s.drain g.trail
  ({ g with trail }, s)

end Gate

namespace World

variable {ν : Type}

def build [Quantity ν] (b : Blueprint) (now : Nat) (backend : Backend) (sink : Sink) :
    Except GateError (World ν) :=
  (Gate.build b now).map fun gate => { gate, backend, sink, blueprint := b }

def deliver (w : World ν) : World ν :=
  let ((), gate, backend) := Gate.deliver.run w.gate w.backend
  { w with gate, backend }

def deliverMany : Nat → World ν → World ν
  | 0, w => w
  | n + 1, w => deliverMany n w.deliver

def handOver (w : World ν) : World ν :=
  let (gate, sink) := w.gate.handOver w.sink
  { w with gate, sink }

-- The fault of a call is met when it arrives; what is delivered meanwhile is delivered before the tables are looked at.
def perform {α : Type} (meanwhile : List Nat) : Routine (Gate ν) α → World ν → α × World ν
  | .done a, w => (a, w)
  | .get next, w => perform meanwhile (next w.gate) w
  | .put gate next, w => perform meanwhile next { w with gate }
  | .ask c limit next, w =>
    match w.backend.arrive with
    | (some e, backend) => perform meanwhile.tail (next (.error e)) { w with backend }
    | (none, backend) =>
      let w := deliverMany (meanwhile.headD 0) { w with backend }
      let (answer, backend) := w.backend.finish c limit
      perform meanwhile.tail (next answer) { w with backend }

def flush (w : World ν) : World ν := (w.deliverMany w.gate.tally.outbox.pending.length).handOver

def rebuild [Quantity ν] (b : Blueprint) (w : World ν) : World ν :=
  match Gate.build b w.gate.now with
  | .ok gate => { w with gate, blueprint := b }
  | .error _ => w

def step [Quantity ν] (w : World ν) : Move → Reply × World ν
  | .command c meanwhile => w.perform meanwhile c.routine
  | .call c => (.nothing, { w with backend := (w.backend.call c none).2 })
  | .faults script => (.nothing, { w with backend := w.backend.addFaults script })
  | .reach on => (.nothing, { w with backend := w.backend.setReachable on })
  | .slow latency => (.nothing, { w with backend := w.backend.setLatency latency })
  | .deliver => (.nothing, w.deliver)
  | .handOver => (.nothing, w.handOver)
  | .flush => (.nothing, w.flush)
  | .restart b => (.nothing, w.flush.rebuild b)

def run [Quantity ν] (w : World ν) : List Move → World ν
  | [] => w
  | m :: rest => (w.step m).2.run rest

theorem perform_nil {α : Type} (r : Routine (Gate ν) α) (w : World ν) :
    perform [] r w = ((r.run w.gate w.backend).1,
      { w with gate := (r.run w.gate w.backend).2.1, backend := (r.run w.gate w.backend).2.2 }) := by
  induction r generalizing w with
  | done a => rfl
  | get next ih => exact ih w.gate w
  | put g next ih => exact ih { w with gate := g }
  | ask c limit next ih =>
    rw [perform, Routine.run, Backend.call]
    obtain ⟨fault, b⟩ := w.backend.arrive
    cases fault with
    | some e => exact ih _ { w with backend := b }
    | none => exact ih _ { w with backend := (b.finish c limit).2 }

theorem run_append [Quantity ν] (w : World ν) (first second : List Move) :
    w.run (first ++ second) = (w.run first).run second := by
  induction first generalizing w with
  | nil => rfl
  | cons m rest ih => exact ih _

end World

end Turnstile
