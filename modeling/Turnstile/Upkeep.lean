import Turnstile.Config
import Turnstile.Store.Error
namespace Turnstile

inductive Sweep where
  | banExpiry
  | bucketEvict
  | windowArchive
  | historyPurge
deriving DecidableEq, Repr

namespace Sweep

def all : List Sweep := [.banExpiry, .bucketEvict, .windowArchive, .historyPurge]

def name : Sweep → String
  | .banExpiry => "ban_expiry"
  | .bucketEvict => "bucket_evict"
  | .windowArchive => "window_archive"
  | .historyPurge => "history_purge"

def cadence (c : Config) : Sweep → Duration
  | .banExpiry => .ofSecs c.banSweepSecs
  | .bucketEvict => .ofSecs c.bucketSweepSecs
  | .windowArchive | .historyPurge => .ofSecs c.archiveSweepSecs

theorem mem_all (s : Sweep) : s ∈ all := by cases s <;> decide

end Sweep

inductive SweepOutcome where
  | notDue
  | completed (affected : Nat)
  | failed (e : StoreError)
deriving DecidableEq, Repr

abbrev Report := List (Sweep × SweepOutcome)

def Report.hasFailures (r : Report) : Bool :=
  r.any fun entry => match entry.2 with
    | .failed _ => true
    | _ => false

structure Upkeep where
  banExpiry : Option Nat
  bucketEvict : Option Nat
  windowArchive : Option Nat
  historyPurge : Option Nat
  runs : Nat
  running : Bool
deriving DecidableEq, Repr

namespace Upkeep

def start : Upkeep := ⟨none, none, none, none, 0, false⟩

def lastSuccess (u : Upkeep) : Sweep → Option Nat
  | .banExpiry => u.banExpiry
  | .bucketEvict => u.bucketEvict
  | .windowArchive => u.windowArchive
  | .historyPurge => u.historyPurge

def succeed (u : Upkeep) (s : Sweep) (now : Nat) : Upkeep :=
  match s with
  | .banExpiry => { u with banExpiry := some now }
  | .bucketEvict => { u with bucketEvict := some now }
  | .windowArchive => { u with windowArchive := some now }
  | .historyPurge => { u with historyPurge := some now }

-- Cadences are counted from the last success: a sweep that fails stays due.
def isDue (u : Upkeep) (c : Config) (now : Nat) (s : Sweep) : Bool :=
  match u.lastSuccess s with
  | none => true
  | some last => (s.cadence c).millis ≤ now - last

theorem lastSuccess_succeed (u : Upkeep) (s t : Sweep) (now : Nat) :
    (u.succeed s now).lastSuccess t = if t = s then some now else u.lastSuccess t := by
  cases s <;> cases t <;> rfl

end Upkeep

end Turnstile
