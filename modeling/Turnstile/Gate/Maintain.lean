import Turnstile.Gate.Basic
namespace Turnstile.Gate

variable {ν : Type}

def merge (g : Gate ν) (now : Nat) (rows : List Ban) : Nat × Gate ν :=
  let (n, bans) := g.bans.merge now rows
  (n, { g with bans })

def restore : Routine (Gate ν) (Except StoreError Nat) := do
  let now := (← Routine.state).now
  match ← Routine.call (.active now) with
  | .error e => pure (.error e)
  | .ok rows =>
    let n ← Routine.update fun g => g.merge now rows
    pure (.ok n)

def reportReleased (g : Gate ν) (released : List Ban) : Gate ν :=
  { g with trail := g.trail.emitAll (released.map (Event.autoReleased · g.now)) }

def sweepBans (c : Config) (now : Nat) : Routine (Gate ν) (Except StoreError Nat) := do
  let _ ← Routine.update fun g : Gate ν => g.expire
  match ← Routine.call (.releaseExpired now) with
  | .error e => pure (.error e)
  | .ok released =>
    Routine.change fun g => g.reportReleased released
    match ← restore with
    | .error e => pure (.error e)
    | .ok _ =>
      -- Failures this old are in the archive and never count again.
      let _ ← Routine.update fun g : Gate ν => g.pruneFloors (now - c.archiveAfter.millis)
      pure (.ok released.length)

def sweepBuckets [Quantity ν] (c : Config) : Routine (Gate ν) (Except StoreError Nat) := do
  let n ← Routine.update fun g : Gate ν =>
    let (n, limiter) := g.limiter.evictIdle g.now c.bucketIdle.millis
    (n, { g with limiter })
  pure (.ok n)

def sweepWindows (c : Config) (now : Nat) : Routine (Gate ν) (Except StoreError Nat) :=
  Routine.call (.archive (now - c.archiveAfter.millis))

def sweepHistory (c : Config) (now : Nat) : Routine (Gate ν) (Except StoreError Nat) := do
  match ← Routine.call (.purgeAttempts (now - c.loginAttemptRetention.millis)) with
  | .error e => pure (.error e)
  | .ok (attempts : Nat) =>
    match ← Routine.call (.purgeBans (now - c.releasedBanRetention.millis)) with
    | .error e => pure (.error e)
    | .ok (bans : Nat) => pure (.ok (attempts + bans))

def work [Quantity ν] (c : Config) (now : Nat) : Sweep → Routine (Gate ν) (Except StoreError Nat)
  | .banExpiry => sweepBans c now
  | .bucketEvict => sweepBuckets c
  | .windowArchive => sweepWindows c now
  | .historyPurge => sweepHistory c now

-- Each sweep looks at the clock for itself, and one that fails does not keep the others from running.
def sweep [Quantity ν] (force : Bool) (s : Sweep) : Routine (Gate ν) SweepOutcome := do
  let g ← Routine.state
  if force || g.upkeep.isDue g.config g.now s then
    match ← work g.config g.now s with
    | .error e => pure (.failed e)
    | .ok n =>
      Routine.change fun h => { h with upkeep := h.upkeep.succeed s g.now }
      pure (.completed n)
  else pure .notDue

def sweeps [Quantity ν] (force : Bool) : List Sweep → Routine (Gate ν) Report
  | [] => pure []
  | s :: rest => do
    let outcome ← sweep force s
    let report ← sweeps force rest
    pure ((s, outcome) :: report)

-- A slow store lets a second run begin before the first is over, hence the mark `running` in the gate.
def maintain [Quantity ν] (force : Bool) : Routine (Gate ν) (Option Report) := do
  let g ← Routine.state
  if g.upkeep.running then pure none
  else
    Routine.change fun g => { g with upkeep := { g.upkeep with running := true } }
    let report ← sweeps force Sweep.all
    Routine.change fun g =>
      { g with upkeep := { g.upkeep with running := false, runs := g.upkeep.runs + 1 } }
    pure (some report)

end Turnstile.Gate
