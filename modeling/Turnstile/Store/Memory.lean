import Turnstile.Store.Call
namespace Turnstile

structure Memory where
  windows : List WindowRow
  archived : List WindowRow
  attempts : List LoginAttempt
  bans : List Ban
deriving DecidableEq, Repr

namespace Memory

def empty : Memory := ⟨[], [], [], []⟩

def tally (client endpoint : String) (start : Nat) (outcome : Outcome) :
    List WindowRow → List WindowRow
  | [] => [(WindowRow.fresh client endpoint start).count outcome]
  | row :: rest =>
    if row.isAt client endpoint start then row.count outcome :: rest
    else row :: tally client endpoint start outcome rest

def total (rows : List WindowRow) (client endpoint : String) (since : Nat) : Counts :=
  (rows.filter (·.isSince client endpoint since)).foldl (fun sum row => sum.add row.counts) .zero

def holds (address : String) (b : Ban) : Bool := b.address == address && b.isUnreleased

def putBan (ban : Ban) : List Ban → List Ban
  | [] => [ban]
  | b :: rest => if holds ban.address b then ban :: rest else b :: putBan ban rest

def releaseFirst (address : String) (reading : Nat) (actor : String) (automatic : Bool) :
    List Ban → Option Ban × List Ban
  | [] => (none, [])
  | b :: rest =>
    if holds address b then
      let released := b.release reading actor automatic
      (some released, released :: rest)
    else
      let (found, rest) := releaseFirst address reading actor automatic rest
      (found, b :: rest)

def expire (now : Nat) (b : Ban) : Ban :=
  if b.isOverdue now then b.release now systemActor true else b

def releasedBefore (cutoff : Nat) (b : Ban) : Bool :=
  match b.releasedAt with
  | some reading => reading < cutoff
  | none => false

def answer : (c : Call) → Memory → c.Answer × Memory
  | .increment client endpoint start outcome, m =>
    ((), { m with windows := tally client endpoint start outcome m.windows })
  | .count client endpoint since, m => (total m.windows client endpoint since, m)
  | .append attempt, m => ((), { m with attempts := m.attempts ++ [attempt] })
  | .upsert ban, m => ((), { m with bans := putBan ban m.bans })
  | .release address reading actor automatic, m =>
    let (found, bans) := releaseFirst address reading actor automatic m.bans
    (found, { m with bans })
  | .active now, m => (m.bans.filter (·.isActive now), m)
  | .releaseExpired now, m =>
    ((m.bans.filter (·.isOverdue now)).map (expire now), { m with bans := m.bans.map (expire now) })
  | .archive cutoff, m =>
    let stale := m.windows.filter (·.start < cutoff)
    (stale.length,
      { m with windows := m.windows.filter (cutoff ≤ ·.start), archived := m.archived ++ stale })
  | .purgeAttempts cutoff, m =>
    ((m.attempts.filter (·.timestamp < cutoff)).length,
      { m with attempts := m.attempts.filter (cutoff ≤ ·.timestamp) })
  | .purgeBans cutoff, m =>
    ((m.bans.filter (releasedBefore cutoff)).length,
      { m with bans := m.bans.filter fun b => !releasedBefore cutoff b })

end Memory

end Turnstile
