import Turnstile.Ticker
import Turnstile.World
namespace Turnstile

-- Time passes only while the caller waits. Meanwhile the hands that have something to do take turns in the order in which
-- they got it, each until it has to wait itself; then time jumps to the next moment at which somebody wakes.
inductive Hand where
  | writer
  | auditor
  | ticker
deriving DecidableEq, Repr

structure Pause (σ α : Type) where
  wake : Nat
  call : Call
  gaveUp : Option Duration
  next : Except StoreError call.Answer → Routine σ α

inductive Progress (σ α : Type) where
  | finished (a : α)
  | waiting (p : Pause σ α)

-- This time is that of pauses and periods; the clock that the gate reads stands still unless a command moves it.
structure Session (ν : Type) extends World ν where
  time : Nat
  ready : List Hand
  writing : Option (Pause (Gate ν) Unit)
  sweeping : Option (Pause (Gate ν) (Option Report))
  ticker : Ticker

namespace Session

variable {ν : Type} {α β : Type}

def ofWorld (w : World ν) : Session ν :=
  { w with time := 0, ready := [.writer, .auditor], writing := none, sweeping := none, ticker := .idle }

def finishCall (s : Session ν) (c : Call) (gaveUp : Option Duration) :
    Except StoreError c.Answer × Session ν :=
  match gaveUp with
  | some limit => (.error (.timeout limit), s)
  | none =>
    let (a, backend) := s.backend.serve c
    (a, { s with backend })

def proceed : Routine (Gate ν) α → Session ν → Progress (Gate ν) α × Session ν
  | .done a, s => (.finished a, s)
  | .get next, s => proceed (next s.gate) s
  | .put gate next, s => proceed next { s with gate }
  | .ask c limit next, s =>
    match s.backend.arrive with
    | (some e, backend) => proceed (next (.error e)) { s with backend }
    | (none, backend) =>
      let (delay, gives) := backend.patience limit
      let gaveUp := if gives then limit else none
      if delay = 0 then
        let (a, s) := finishCall { s with backend } c gaveUp
        proceed (next a) s
      else (.waiting ⟨s.time + delay, c, gaveUp, next⟩, { s with backend })

def resume (p : Pause (Gate ν) α) (s : Session ν) : Progress (Gate ν) α × Session ν :=
  let (a, s) := s.finishCall p.call p.gaveUp
  proceed (p.next a) s

def pendingWrites (s : Session ν) : List Write := s.gate.tally.outbox.pending

def deliverMany : Nat → Session ν → Session ν
  | 0, s => s
  | n + 1, s =>
    match proceed Gate.deliver s with
    | (.finished (), s) => deliverMany n s
    | (.waiting p, s) => { s with writing := some p }

def runWriter (s : Session ν) : Session ν :=
  match s.writing with
  | none => deliverMany s.pendingWrites.length s
  | some p =>
    if p.wake ≤ s.time then
      match resume p { s with writing := none } with
      | (.finished (), s) => deliverMany s.pendingWrites.length s
      | (.waiting p, s) => { s with writing := some p }
    else s

def runAuditor (s : Session ν) : Session ν :=
  let (gate, sink) := s.gate.handOver s.sink
  { s with gate, sink }

-- A run that takes no time is not due again at once.
def tick [Quantity ν] : Nat → Session ν → Session ν
  | 0, s => s
  | n + 1, s =>
    let (due, ticker) := s.ticker.poll s.time
    let s := { s with ticker }
    if due then
      match proceed (Gate.maintain false) s with
      | (.finished _, s) => tick n { s with ticker := s.ticker.afterRun }
      | (.waiting p, s) => { s with sweeping := some p }
    else s

def runTicker [Quantity ν] (s : Session ν) : Session ν :=
  match s.sweeping with
  | none => tick 2 s
  | some p =>
    if p.wake ≤ s.time then
      match resume p { s with sweeping := none } with
      | (.finished _, s) => tick 2 { s with ticker := s.ticker.afterRun }
      | (.waiting p, s) => { s with sweeping := some p }
    else s

def runHand [Quantity ν] (s : Session ν) : Hand → Session ν
  | .writer => s.runWriter
  | .auditor => s.runAuditor
  | .ticker => s.runTicker

def call (s : Session ν) (h : Hand) : Session ν :=
  if s.ready.contains h then s else { s with ready := s.ready ++ [h] }

def notice (s : Session ν) : Session ν :=
  let s := if s.pendingWrites.isEmpty || s.writing.isSome then s else s.call .writer
  if s.gate.trail.pending.isEmpty then s else s.call .auditor

-- Maintenance only makes work for the auditor.
def settle [Quantity ν] (s : Session ν) : Session ν :=
  let s := s.notice
  (s.ready.foldl runHand { s with ready := [] }).runAuditor

def tickerWake? (s : Session ν) : Option Nat :=
  match s.sweeping with
  | some p => some p.wake
  | none => s.ticker.wake?

def nextWake? (s : Session ν) : Option Nat :=
  match s.writing, s.tickerWake? with
  | some p, some t => some (min p.wake t)
  | some p, none => some p.wake
  | none, t => t

def setTime (s : Session ν) (time : Nat) : Session ν :=
  let woken (wake : Option Nat) : Bool :=
    match wake with
    | some t => t ≤ time
    | none => false
  let s := { s with time }
  let s := if woken (s.writing.map (·.wake)) then s.call .writer else s
  if woken s.tickerWake? then s.call .ticker else s

theorem time_call (s : Session ν) (h : Hand) : (s.call h).time = s.time := by
  unfold call; split <;> rfl

theorem time_setTime (s : Session ν) (time : Nat) : (s.setTime time).time = time := by
  unfold setTime
  simp only [apply_ite Session.time, time_call, ite_self]

def wait [Quantity ν] (busy : Session ν → Bool) (deadline : Nat) (s : Session ν) : Session ν :=
  let settled := s.settle
  if busy settled && s.time < deadline then
    let wake := max (settled.nextWake?.getD deadline) (s.time + 1)
    if wake < deadline then wait busy deadline (settled.setTime wake) else settled.setTime deadline
  else settled
termination_by deadline - s.time
decreasing_by rw [time_setTime]; omega

def pass [Quantity ν] (s : Session ν) (millis : Nat) : Session ν :=
  if millis = 0 then s else s.wait (fun _ => true) (s.time + millis)

def perform [Quantity ν] : Routine (Gate ν) α → Session ν → α × Session ν
  | .done a, s => (a, s)
  | .get next, s => perform (next s.gate) s
  | .put gate next, s => perform next { s with gate }
  | .ask c limit next, s =>
    match s.backend.arrive with
    | (some e, backend) => perform (next (.error e)) { s with backend }
    | (none, backend) =>
      let (delay, gives) := backend.patience limit
      let s := pass { s with backend } delay
      let (a, s) := s.finishCall c (if gives then limit else none)
      perform (next a) s

def command [Quantity ν] (s : Session ν) (c : Command) : Reply × Session ν :=
  let (reply, s) := perform c.routine s
  (reply, s.notice)

def storeCall [Quantity ν] (s : Session ν) (c : Call) : Except StoreError c.Answer × Session ν :=
  perform (Routine.call c) s

def isWriting (s : Session ν) : Bool := s.writing.isSome || !s.pendingWrites.isEmpty

def writtenBy (s : Session ν) : Nat :=
  let tries := (s.pendingWrites.length + 1) * s.gate.tally.outbox.retry.attempts
  max s.time ((s.writing.map (·.wake)).getD 0) + tries * (s.backend.latency + 1)

def flush [Quantity ν] (s : Session ν) : Session ν := (s.wait isWriting s.writtenBy).settle

def sweptBy (s : Session ν) : Nat :=
  max s.time ((s.sweeping.map (·.wake)).getD 0) + 6 * (s.backend.latency + 1)

def start [Quantity ν] (s : Session ν) : Session ν :=
  let (_, s) := s.command .restore
  let fresh := s.ticker.loop.isNone
  let s := { s with ticker := s.ticker.start s.gate.config.cleanupInterval.millisUp }
  if fresh then s.call .ticker else s

def shutdown [Quantity ν] (s : Session ν) : Session ν :=
  let s :=
    if s.ticker.isLive then
      let s := { s with ticker := s.ticker.tell }
      let s := if s.sweeping.isSome then s else s.call .ticker
      s.wait (·.ticker.isLive) s.sweptBy
    else s
  { s with ticker := s.ticker.forget }.flush

def restart [Quantity ν] (s : Session ν) : Session ν :=
  let s := s.shutdown
  { ofWorld (s.toWorld.rebuild s.blueprint) with time := s.time }

def overlap [Quantity ν] (first : Routine (Gate ν) α) (second : Routine (Gate ν) β) (s : Session ν) :
    (α × β) × Session ν :=
  match proceed first s with
  | (.finished a, s) =>
    let (b, s) := perform second s
    ((a, b), s)
  | (.waiting p, s) =>
    let (b, s) := perform second s
    let s := s.pass (p.wake - s.time)
    let (answer, s) := s.finishCall p.call p.gaveUp
    let (a, s) := perform (p.next answer) s
    ((a, b), s)

end Session

end Turnstile
