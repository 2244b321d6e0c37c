namespace Turnstile

structure TickLoop where
  period : Nat
  due : Option Nat
  told : Bool
  ended : Bool
deriving DecidableEq, Repr

-- The flag stays raised: a loop that is started later still runs once, sees it, and ends.
structure Ticker where
  stopped : Bool
  loop : Option TickLoop
deriving DecidableEq, Repr

namespace Ticker

def idle : Ticker := ⟨false, none⟩

def isLive (t : Ticker) : Bool :=
  match t.loop with
  | some l => !l.ended
  | none => false

def start (t : Ticker) (period : Nat) : Ticker :=
  match t.loop with
  | some _ => t
  | none => { t with loop := some ⟨period, none, false, false⟩ }

def tolerance : Nat := 5

-- A run that ends late does not shift the later ones: they stay on the grid, and those that were missed are left out.
def dueAfter (period due time : Nat) : Nat :=
  if due + tolerance < time then time + period - (time - due) % period else due + period

def poll (t : Ticker) (time : Nat) : Bool × Ticker :=
  match t.loop with
  | none => (false, t)
  | some l =>
    if l.ended then (false, t)
    else if l.told then (false, { t with loop := some { l with ended := true } })
    else
      let due := l.due.getD time
      if due ≤ time then
        (true, { t with loop := some { l with due := some (dueAfter l.period due time) } })
      else (false, t)

def afterRun (t : Ticker) : Ticker :=
  match t.loop with
  | some l => if t.stopped then { t with loop := some { l with ended := true } } else t
  | none => t

-- A loop that was told stays until the next time it is looked at, hence `told` beside `ended`.
def tell (t : Ticker) : Ticker :=
  match t.loop with
  | some l => if l.ended then t else ⟨true, some { l with told := true }⟩
  | none => t

def forget (t : Ticker) : Ticker := { t with loop := none }

def wake? (t : Ticker) : Option Nat :=
  match t.loop with
  | some l => if l.ended then none else l.due
  | none => none

end Ticker

end Turnstile
