import Turnstile.Config
namespace Turnstile

structure Tier where
  threshold : Nat
  duration : Duration
deriving DecidableEq, Repr

inductive PolicyError where
  | empty
  | zeroThreshold (index : Nat)
  | zeroDuration (index : Nat)
  | notAscending (index threshold previous : Nat)
deriving DecidableEq, Repr

def PolicyError.message : PolicyError → String
  | .empty => "escalation table must have at least one tier"
  | .zeroThreshold index => s!"tier {index}: threshold must be > 0"
  | .zeroDuration index => s!"tier {index}: ban duration must be > 0"
  | .notAscending index threshold previous =>
    s!"tier {index}: threshold {threshold} does not exceed previous tier ({previous})"

structure Policy where
  tiers : List Tier
  window : Duration
  reason : String
deriving DecidableEq, Repr

namespace Policy

def loginReason : String := "too_many_failed_logins"

def tierFault? (index : Nat) (previous : Option Nat) : List Tier → Option PolicyError
  | [] => none
  | tier :: rest =>
    if tier.threshold = 0 then some (.zeroThreshold index)
    else if tier.duration.nanos = 0 then some (.zeroDuration index)
    else match previous with
      | some p =>
        if tier.threshold ≤ p then some (.notAscending index tier.threshold p)
        else tierFault? (index + 1) (some tier.threshold) rest
      | none => tierFault? (index + 1) (some tier.threshold) rest

def fault? (tiers : List Tier) : Option PolicyError :=
  if tiers.isEmpty then some .empty else tierFault? 0 none tiers

def make (tiers : List Tier) (window : Duration) (reason : String) : Except PolicyError Policy :=
  match fault? tiers with
  | some fault => .error fault
  | none => .ok ⟨tiers, window, reason⟩

def standard : Policy := ⟨[⟨5, .ofSecs 300⟩], .ofSecs 300, loginReason⟩

def ofConfig (c : Config) : Except PolicyError Policy :=
  make [⟨c.loginMaxAttempts, c.banDuration⟩] c.loginWindow loginReason

def doubleSecs (d : Duration) : Float :=
  d.secs.toUInt64.toFloat + d.subNanos.toUInt64.toFloat / 1000000000

-- A count taken over more time than the policy looks back is scaled down to its window.
def effective (p : Policy) (failures : Nat) (window : Duration) : Nat :=
  if p.window.nanos < window.nanos then
    (failures.toUInt64.toFloat * doubleSecs p.window / doubleSecs window).floor.toUInt64.toNat
  else failures

def tierFor (p : Policy) (count : Nat) : Option Tier :=
  p.tiers.reverse.find? fun tier => tier.threshold ≤ count

def verdict (p : Policy) (failures : Nat) (window : Duration) : Option Tier :=
  p.tierFor (p.effective failures window)

theorem effective_of_le {p : Policy} {window : Duration} (short : window.nanos ≤ p.window.nanos)
    (failures : Nat) : p.effective failures window = failures := by
  unfold effective
  rw [if_neg (by omega)]

end Policy

end Turnstile
