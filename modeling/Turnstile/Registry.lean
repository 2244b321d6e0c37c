import Turnstile.Ban
import Turnstile.Table
namespace Turnstile

-- Kept until the released ban would have ended: a row of the store that does not show the release must not bring it back.
structure ReleaseMark where
  releasedAt : Nat
  bannedUntil : Nat
deriving DecidableEq, Repr

structure Registry where
  active : Table Ban
  floors : Table Nat
  released : Table ReleaseMark

namespace Registry

def empty : Registry := ⟨.empty, .empty, .empty⟩

def activeBan (r : Registry) (now : Nat) (address : String) : Option Ban :=
  (r.active.get? address).filter (·.isActive now)

def raise (floors : Table Nat) (address : String) (instant : Nat) : Table Nat :=
  floors.insert address (max ((floors.get? address).getD instant) instant)

-- The deadline of a ban that begins now. It lies in the future, the reading 2^64 - 1 left out: there now + 1 does not
-- fit a word, and what becomes of such a ban is not told here.
def deadline (now : Nat) (d : Duration) : Nat := max (satAdd now d.millis) (now + 1)

def extend (b : Ban) (deadline : Nat) (reason : String) (failures : Nat) : Ban :=
  let later := if b.bannedUntil < deadline then { b with bannedUntil := deadline, reason } else b
  { later with failedAttempts := max b.failedAttempts failures }

def fresh (address : String) (now deadline : Nat) (reason : String) (failures : Nat)
    (actor : String) : Ban :=
  ⟨address, now, deadline, reason, failures, actor, none, none, false⟩

def ban (r : Registry) (now : Nat) (address reason : String) (d : Duration) (failures : Nat)
    (actor : String) : Option Ban × Ban × Registry :=
  let deadline := deadline now d
  let previous := r.activeBan now address
  let ban := match previous with
    | some b => extend b deadline reason failures
    | none => fresh address now deadline reason failures actor
  (previous, ban,
    { active := r.active.insert address ban
      floors := raise r.floors address ban.bannedUntil
      released := r.released.erase address })

def unban (r : Registry) (now : Nat) (address : String) : Option Ban × Registry :=
  let active := r.active.erase address
  match r.activeBan now address with
  | none => (none, { r with active })
  | some b =>
    -- Here alone the floor may go down: a release by hand is a clean slate, also for the time that the ban had still to run.
    (some b,
      { active
        floors := r.floors.insert address now
        released := r.released.insert address ⟨now, b.bannedUntil⟩ })

def dropMarks (r : Registry) (now : Nat) : Registry :=
  { r with released := r.released.filter fun _ mark => now < mark.bannedUntil }

def isShadowed (r : Registry) (row : Ban) : Bool :=
  match r.released.get? row.address with
  | some mark => row.bannedAt ≤ mark.releasedAt
  | none => false

-- A row never shortens a ban that is known here, and changes nothing of it but the deadline: the write that would
-- bring the row up to date may still be queued.
def mergeRow (now : Nat) (r : Registry) (row : Ban) : Nat × Registry :=
  if r.isShadowed row then (0, r)
  else
    let floors := raise r.floors row.address row.bannedUntil
    match r.activeBan now row.address with
    | some b =>
      if b.bannedUntil < row.bannedUntil then
        (1, { r with
          active := r.active.insert row.address { b with bannedUntil := row.bannedUntil }
          floors })
      else (0, { r with floors })
    | none => (1, { r with active := r.active.insert row.address row, floors })

def mergeRows (now : Nat) : List Ban → Registry → Nat × Registry
  | [], r => (0, r)
  | row :: rest, r =>
    let (n, r) := mergeRow now r row
    let (m, r) := mergeRows now rest r
    (n + m, r)

def merge (r : Registry) (now : Nat) (rows : List Ban) : Nat × Registry :=
  mergeRows now rows (r.dropMarks now)

def expire (r : Registry) (now : Nat) : List Ban × Registry :=
  let r := r.dropMarks now
  ((r.active.filter fun _ b => !b.isActive now).values,
    { r with active := r.active.filter fun _ b => b.isActive now })

def pruneFloors (r : Registry) (before : Nat) : Nat × Registry :=
  let floors := r.floors.filter fun _ floor => before ≤ floor
  (r.floors.size - floors.size, { r with floors })

def list (r : Registry) (now : Nat) : List Ban :=
  (r.active.values.filter (·.isActive now)).mergeSort Ban.byAddress

def floor (r : Registry) (address : String) : Option Nat := r.floors.get? address

end Registry

end Turnstile
