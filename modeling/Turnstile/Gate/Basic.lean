import Turnstile.Audit.Trail
import Turnstile.Gate.Error
import Turnstile.Limiter
import Turnstile.Registry
import Turnstile.Tally
import Turnstile.Upkeep
namespace Turnstile

structure Gate (ν : Type) where
  now : Nat
  config : Config
  policy : Policy
  limiter : Limiter ν
  tally : Tally
  bans : Registry
  trail : Trail
  upkeep : Upkeep

-- A policy or retries that are not given follow the configuration.
structure Blueprint where
  config : Config
  policy : Option Policy
  retry : Option Retry

def Blueprint.choosePolicy (b : Blueprint) : Except PolicyError Policy :=
  match b.policy with
  | some policy => .ok policy
  | none => Policy.ofConfig b.config

def Blueprint.chooseRetry (b : Blueprint) : Retry :=
  b.retry.getD (.make b.config.writeRetryAttempts b.config.writeRetryBase none)

namespace Gate

variable {ν : Type}

def build [Quantity ν] (b : Blueprint) (now : Nat) : Except GateError (Gate ν) :=
  let c := b.config
  match c.fault? with
  | some fault => .error (.config fault)
  | none =>
    match b.choosePolicy with
    | .error fault => .error (.policy fault)
    | .ok policy =>
      .ok
        { now
          config := c
          policy
          limiter := .start (Quantity.ofDouble c.rate) c.burst
          tally := ⟨c.windowGranularity, .make c.writeQueueCapacity b.chooseRetry⟩
          bans := .empty
          trail := .make c.auditQueueCapacity
          upkeep := .start }

def send (g : Gate ν) (w : Write) : Gate ν :=
  { g with tally := { g.tally with outbox := g.tally.outbox.send w } }

def report (g : Gate ν) (e : Event) : Gate ν := { g with trail := g.trail.emit e }

def count (g : Gate ν) (client endpoint : String) (outcome : Outcome) : Gate ν :=
  { g with tally := g.tally.record g.now client endpoint outcome }

def appendAttempt (g : Gate ν) (a : LoginAttempt) : Gate ν := { g with tally := g.tally.append a }

def acquire [Quantity ν] (g : Gate ν) (client : String) : Decision × Gate ν :=
  let (decision, limiter) := g.limiter.acquire g.now client
  (decision, { g with limiter })

def available [Quantity ν] (g : Gate ν) (client : String) : Option ν := g.limiter.available g.now client

def activeBan (g : Gate ν) (client : String) : Option Ban := g.bans.activeBan g.now client

def bannedClients (g : Gate ν) : List Ban := g.bans.list g.now

def banFault? (client reason : String) (d : Duration) : Option GateError :=
  match Client.fault? client with
  | some fault => some (.client fault)
  | none =>
    if d.isZero then some (.banDuration d)
    else if reason = "" ∨ reason = Admission.limitedReason ∨ reason = Admission.okReason then
      some (.banReason reason)
    else none

def ban (g : Gate ν) (client reason : String) (d : Duration) (failures : Nat) (actor : String) :
    Except GateError Ban × Gate ν :=
  match banFault? client reason d with
  | some fault => (.error fault, g)
  | none =>
    let (previous, ban, bans) := g.bans.ban g.now client reason d failures actor
    let g := { g with bans }
    (.ok ban, (g.send (.ban ban)).report (.banned previous ban actor g.now))

def unban (g : Gate ν) (client actor : String) (note : Option String) :
    Except GateError (Option Ban) × Gate ν :=
  match Client.fault? client with
  | some fault => (.error (.client fault), g)
  | none =>
    let (found, bans) := g.bans.unban g.now client
    let g := { g with bans }
    match found with
    | none => (.ok none, g)
    | some before =>
      let after := before.release g.now actor false
      (.ok (some after), (g.send (.release client g.now actor false)).report
        (.unbanned before after actor note g.now))

def release (g : Gate ν) (client actor reason : String) : Except GateError Unit × Gate ν :=
  let (result, g) := g.unban client actor (some reason)
  (result.map fun _ => (), g)

def expire (g : Gate ν) : List Ban × Gate ν :=
  let (dropped, bans) := g.bans.expire g.now
  (dropped.mergeSort Ban.byAddress, { g with bans })

def pruneFloors (g : Gate ν) (before : Nat) : Nat × Gate ν :=
  let (n, bans) := g.bans.pruneFloors before
  (n, { g with bans })

def forClient (g : Gate ν) (client : String) (f : Gate ν → Gate ν) :
    Except GateError Unit × Gate ν :=
  match Client.fault? client with
  | some fault => (.error (.client fault), g)
  | none => (.ok (), f g)

def reportLogin (g : Gate ν) (client endpoint username : String) (success : Bool)
    (why : Option String) : Except GateError Unit × Gate ν :=
  g.forClient client fun g =>
    (g.count client endpoint (.ofSuccess success)).appendAttempt
      { username
        address := client
        success
        failureReason := if success then none else why
        rateLimited := false
        timestamp := g.now }

-- A login that was refused before the credentials were looked at counts as nothing.
def reportRefused (g : Gate ν) (client username : String) (a : Admission) :
    Except GateError Unit × Gate ν :=
  g.forClient client fun g =>
    g.appendAttempt
      { username
        address := client
        success := false
        failureReason := some a.reason
        rateLimited := a.reason == Admission.limitedReason
        timestamp := g.now }

def reportOutcome (g : Gate ν) (client endpoint : String) (success : Bool) :
    Except GateError Unit × Gate ν :=
  g.forClient client fun g => g.count client endpoint (.ofSuccess success)

-- Queues, granularity and retries stay as they were built.
def reconfigure [Quantity ν] (g : Gate ν) (c : Config) : Except GateError Unit × Gate ν :=
  match c.fault? with
  | some fault => (.error (.config fault), g)
  | none =>
    match Policy.ofConfig c with
    | .error fault => (.error (.policy fault), g)
    | .ok policy =>
      let limiter := g.limiter.setLimits (Quantity.ofDouble c.rate) c.burst
      -- The configuration is looked at once more when limits and policy are in force already.
      let (fault, live) := LiveConfig.set ⟨g.config⟩ c
      let g := { g with limiter, policy, config := live.current }
      match fault with
      | some fault => (.error (.config fault), g)
      | none => (.ok (), g)

theorem reconfigure_eq [Quantity ν] (g : Gate ν) (c : Config) :
    g.reconfigure c =
      match c.fault?, Policy.ofConfig c with
      | some fault, _ => (.error (.config fault), g)
      | none, .error fault => (.error (.policy fault), g)
      | none, .ok policy =>
        (.ok (), { g with
          limiter := g.limiter.setLimits (Quantity.ofDouble c.rate) c.burst
          policy
          config := c }) := by
  simp only [reconfigure, LiveConfig.set]
  cases c.fault? with
  | some fault => rfl
  | none => cases Policy.ofConfig c <;> rfl

end Gate

end Turnstile
