import Turnstile.Json.Record
namespace Turnstile

structure Ban where
  address : String
  bannedAt : Nat
  bannedUntil : Nat
  reason : String
  failedAttempts : Nat
  bannedBy : String
  releasedAt : Option Nat
  releasedBy : Option String
  autoReleased : Bool
deriving DecidableEq, Repr

namespace Ban

def isUnreleased (b : Ban) : Bool := b.releasedAt.isNone

def isActive (b : Ban) (now : Nat) : Bool := b.isUnreleased && now < b.bannedUntil

def isOverdue (b : Ban) (now : Nat) : Bool := b.isUnreleased && b.bannedUntil ≤ now

def timeLeft (b : Ban) (now : Nat) : Duration :=
  if b.isUnreleased then remaining now b.bannedUntil else .zero

-- A released record is history: it does not change any more.
def release (b : Ban) (reading : Nat) (actor : String) (automatic : Bool) : Ban :=
  if b.isUnreleased then
    { b with releasedAt := some reading, releasedBy := some actor, autoReleased := automatic }
  else b

def toValue (b : Ban) : Json.Value :=
  .object [("ipAddress", .text b.address), ("bannedAt", .nat b.bannedAt),
    ("bannedUntil", .nat b.bannedUntil), ("reason", .text b.reason),
    ("failedAttempts", .nat b.failedAttempts), ("bannedBy", .text b.bannedBy),
    ("releasedAt", .ofOption .nat b.releasedAt), ("releasedBy", .ofOption .text b.releasedBy),
    ("autoReleased", .bool b.autoReleased)]

def ofTree? (t : Json.Tree) : Option Ban := do
  let fields ← t.fields? 9
  return {
    address := ← fields.required 0 "ipAddress" (·.text?)
    bannedAt := ← fields.required 1 "bannedAt" (·.nat? wordMax)
    bannedUntil := ← fields.required 2 "bannedUntil" (·.nat? wordMax)
    reason := ← fields.required 3 "reason" (·.text?)
    failedAttempts := ← fields.required 4 "failedAttempts" (·.nat? halfMax)
    bannedBy := ← fields.required 5 "bannedBy" (·.text?)
    releasedAt := ← fields.nullable 6 "releasedAt" (·.nat? wordMax)
    releasedBy := ← fields.nullable 7 "releasedBy" (·.text?)
    autoReleased := ← fields.required 8 "autoReleased" (·.bool?) }

-- What an audit event tells of a ban; members sorted by key.
def summary (b : Ban) : Json.Value :=
  .object [("bannedAt", .nat b.bannedAt), ("bannedBy", .text b.bannedBy),
    ("bannedUntil", .nat b.bannedUntil), ("failedAttempts", .nat b.failedAttempts),
    ("reason", .text b.reason), ("releasedAt", .ofOption .nat b.releasedAt),
    ("releasedBy", .ofOption .text b.releasedBy)]

def byAddress (a b : Ban) : Bool := decide (a.address ≤ b.address)

theorem isActive_iff (b : Ban) (now : Nat) :
    b.isActive now = true ↔ b.releasedAt = none ∧ now < b.bannedUntil := by
  simp [isActive, isUnreleased]

theorem isOverdue_iff (b : Ban) (now : Nat) :
    b.isOverdue now = true ↔ b.releasedAt = none ∧ b.bannedUntil ≤ now := by
  simp [isOverdue, isUnreleased]

theorem release_of_released {b : Ban} (released : b.isUnreleased = false) (reading : Nat)
    (actor : String) (automatic : Bool) : b.release reading actor automatic = b := by
  simp [release, released]

theorem releasedAt_release {b : Ban} (unreleased : b.releasedAt = none) (reading : Nat) (actor : String)
    (automatic : Bool) : (b.release reading actor automatic).releasedAt = some reading := by
  simp [release, isUnreleased, unreleased]

@[simp] theorem address_release (b : Ban) (reading : Nat) (actor : String) (automatic : Bool) :
    (b.release reading actor automatic).address = b.address := by
  unfold release
  split <;> rfl

@[simp] theorem reason_release (b : Ban) (reading : Nat) (actor : String) (automatic : Bool) :
    (b.release reading actor automatic).reason = b.reason := by
  unfold release
  split <;> rfl

end Ban

end Turnstile
