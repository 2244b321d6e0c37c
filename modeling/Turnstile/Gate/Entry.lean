import Turnstile.Gate.Basic
namespace Turnstile.Gate

variable {ν : Type}

inductive Screening where
  | answered (a : Admission)
  | undecided
deriving DecidableEq, Repr

def screen [Quantity ν] (g : Gate ν) (client endpoint : String) (critical : Bool) : Screening × Gate ν :=
  match g.activeBan client with
  | some b => (.answered (.banned (b.timeLeft g.now) b.reason), g)
  | none =>
    match g.acquire client with
    | (.denied wait, g) => (.answered (.rateLimited wait), g.count client endpoint .throttled)
    | (.allowed _, g) =>
      if critical then (.undecided, g)
      else (.answered .admitted, g.count client endpoint .succeeded)

-- Windows count as a whole, so that the one in which a ban ended is skipped.
def lookback (g : Gate ν) (client : String) : Nat :=
  let since := g.now - g.policy.window.millis
  match g.bans.floor client with
  | none => since
  | some floor => max since (windowCeil floor g.tally.granularity)

def toHalf (n : Nat) : Nat := min n halfMax

def escalate (g : Gate ν) (client : String) (failures : Nat) : Option Ban × Gate ν :=
  match g.policy.verdict failures g.policy.window with
  | none => (none, g)
  | some tier =>
    match g.ban client g.policy.reason tier.duration (toHalf failures) systemActor with
    | (.ok ban, g) => (some ban, g)
    | (.error _, g) => (none, g)

-- A store that gives no answer counts as one without failures: the bucket still limits the client.
def judge (g : Gate ν) (client endpoint : String) (reading : Except StoreError Counts) :
    Admission × Gate ν :=
  match reading with
  | .error _ => (.admitted, g)
  | .ok counts =>
    match g.escalate client counts.failures with
    | (none, g) => (.admitted, g)
    | (some ban, g) =>
      (.banned (ban.timeLeft g.now) ban.reason,
        g.report (.accessDenied client endpoint ban.reason g.now))

-- While the answer is awaited other work may change the gate, hence `judge` looks at it again.
def enter [Quantity ν] (client endpoint : String) (critical : Bool) :
    Routine (Gate ν) (Except GateError Admission) :=
  match Client.fault? client with
  | some fault => pure (.error (.client fault))
  | none => do
    match ← Routine.update fun g => g.screen client endpoint critical with
    | .answered a => pure (.ok a)
    | .undecided =>
      let g ← Routine.state
      let reading ← Routine.callWithin g.config.criticalReadTimeout
        (g.tally.since client endpoint (g.lookback client))
      let a ← Routine.update fun g => g.judge client endpoint reading
      pure (.ok a)

inductive Inner where
  | responds
  | fails
  | notReady
deriving DecidableEq, Repr

def serve [Quantity ν] (client endpoint : String) (critical : Bool) (inner : Inner) :
    Routine (Gate ν) (Except ServiceError String) :=
  if inner = .notReady then pure (.error (.inner "not ready"))
  else do
    match ← enter client endpoint critical with
    | .error e => pure (.error (.gate e))
    | .ok a =>
      if a.allowed then
        if inner = .fails then pure (.error (.inner ("failed " ++ endpoint)))
        else pure (.ok endpoint)
      else pure (.error (.denied a))

end Turnstile.Gate
