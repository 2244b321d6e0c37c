import Turnstile.Store.Memory
namespace Turnstile

structure Relational where
  windows : List WindowRow
  archived : List WindowRow
  attempts : List LoginAttempt
  bans : List Ban
deriving DecidableEq, Repr

namespace Relational

def empty : Relational := ⟨[], [], [], []⟩

-- Columns are signed words of 64 bits, and numbers stop at the largest one.
def column (n : Nat) : Nat := min n signedMax

def newRow (ban : Ban) : Ban :=
  { ban with
    bannedAt := column ban.bannedAt
    bannedUntil := column ban.bannedUntil
    releasedAt := none
    releasedBy := none
    autoReleased := false }

def overwrite (row ban : Ban) : Ban :=
  { row with
    bannedAt := column ban.bannedAt
    bannedUntil := column ban.bannedUntil
    reason := ban.reason
    failedAttempts := ban.failedAttempts
    bannedBy := ban.bannedBy }

-- The check looks at the row as it would be inserted, also where a conflict turns the insertion into an update.
def passesCheck (ban : Ban) : Bool := column ban.bannedAt < column ban.bannedUntil

def putRow (ban : Ban) (rows : List Ban) : List Ban :=
  if rows.any (Memory.holds ban.address) then
    rows.map fun row => if Memory.holds ban.address row then overwrite row ban else row
  else rows ++ [newRow ban]

def releaseRow (reading : Nat) (actor : String) (automatic : Bool) (row : Ban) : Ban :=
  { row with
    releasedAt := some (column reading)
    releasedBy := some actor
    autoReleased := automatic }

def updateRows (test : Ban → Bool) (update : Ban → Ban) (rows : List Ban) : List Ban × List Ban :=
  ((rows.filter test).map update, rows.map fun row => if test row then update row else row)

def countRow (client endpoint : String) (start : Nat) (outcome : Outcome) (rows : List WindowRow) :
    List WindowRow :=
  let start := column start
  if rows.any (·.isAt client endpoint start) then
    rows.map fun row => if row.isAt client endpoint start then row.count outcome else row
  else rows ++ [(WindowRow.fresh client endpoint start).count outcome]

def answer : (c : Call) → Relational → Except StoreError c.Answer × Relational
  | .increment client endpoint start outcome, r =>
    (.ok (), { r with windows := countRow client endpoint start outcome r.windows })
  | .count client endpoint since, r =>
    (.ok (Memory.total r.windows client endpoint (column since)), r)
  | .append attempt, r =>
    let row := { attempt with timestamp := column attempt.timestamp }
    (.ok (), { r with attempts := r.attempts ++ [row] })
  | .upsert ban, r =>
    if passesCheck ban then (.ok (), { r with bans := putRow ban r.bans })
    else (.error (.backend "check failed"), r)
  | .release address reading actor automatic, r =>
    let (found, bans) :=
      updateRows (Memory.holds address) (releaseRow reading actor automatic) r.bans
    (.ok found.head?, { r with bans })
  | .active now, r =>
    (.ok ((r.bans.filter (·.isActive (column now))).mergeSort Ban.byAddress), r)
  | .releaseExpired now, r =>
    let (found, bans) :=
      updateRows (·.isOverdue (column now)) (releaseRow now systemActor true) r.bans
    (.ok found, { r with bans })
  | .archive cutoff, r =>
    let stale := r.windows.filter (·.start < column cutoff)
    (.ok stale.length,
      { r with
        windows := r.windows.filter (column cutoff ≤ ·.start)
        archived := r.archived ++ stale })
  | .purgeAttempts cutoff, r =>
    (.ok (r.attempts.filter (·.timestamp < column cutoff)).length,
      { r with attempts := r.attempts.filter (column cutoff ≤ ·.timestamp) })
  | .purgeBans cutoff, r =>
    (.ok (r.bans.filter (Memory.releasedBefore (column cutoff))).length,
      { r with bans := r.bans.filter fun b => !Memory.releasedBefore (column cutoff) b })

end Relational

end Turnstile
