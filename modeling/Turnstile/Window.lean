import Turnstile.Json.Record
namespace Turnstile

inductive Outcome where
  | succeeded
  | failed
  | throttled
deriving DecidableEq, Repr

namespace Outcome

def ofSuccess (success : Bool) : Outcome := if success then .succeeded else .failed

def name : Outcome → String
  | .succeeded => "succeeded"
  | .failed => "failed"
  | .throttled => "throttled"

def ofName? (name : String) : Option Outcome :=
  if name = "succeeded" then some .succeeded
  else if name = "failed" then some .failed
  else if name = "throttled" then some .throttled
  else none

def toValue (o : Outcome) : Json.Value := .text o.name

-- Its name, or an object with its name as the only key and nothing in it.
def ofTree? : Json.Tree → Option Outcome
  | .text s => s.bind ofName?
  | .object [(key, .null)] => key.bind ofName?
  | _ => none

theorem ofName?_name (o : Outcome) : ofName? o.name = some o := by cases o <;> decide

end Outcome

structure Counts where
  requests : Nat
  failures : Nat
  throttled : Nat
deriving DecidableEq, Repr

namespace Counts

def zero : Counts := ⟨0, 0, 0⟩

def add (a b : Counts) : Counts :=
  ⟨a.requests + b.requests, a.failures + b.failures, a.throttled + b.throttled⟩

def toValue (c : Counts) : Json.Value :=
  .object [("requests", .nat c.requests), ("failures", .nat c.failures),
    ("throttled", .nat c.throttled)]

def ofTree? (t : Json.Tree) : Option Counts := do
  let fields ← t.fields? 3
  return {
    requests := ← fields.required 0 "requests" (·.nat? wordMax)
    failures := ← fields.required 1 "failures" (·.nat? wordMax)
    throttled := ← fields.required 2 "throttled" (·.nat? wordMax) }

end Counts

structure WindowRow where
  client : String
  endpoint : String
  start : Nat
  requests : Nat
  failures : Nat
  throttled : Nat
deriving DecidableEq, Repr

namespace WindowRow

def fresh (client endpoint : String) (start : Nat) : WindowRow := ⟨client, endpoint, start, 0, 0, 0⟩

def count (row : WindowRow) (outcome : Outcome) : WindowRow :=
  let row := { row with requests := satAdd row.requests 1 }
  match outcome with
  | .succeeded => row
  | .failed => { row with failures := satAdd row.failures 1 }
  | .throttled => { row with throttled := satAdd row.throttled 1 }

def isAt (row : WindowRow) (client endpoint : String) (start : Nat) : Bool :=
  row.client == client && row.endpoint == endpoint && row.start == start

def isSince (row : WindowRow) (client endpoint : String) (since : Nat) : Bool :=
  row.client == client && row.endpoint == endpoint && since ≤ row.start

def counts (row : WindowRow) : Counts := ⟨row.requests, row.failures, row.throttled⟩

def toValue (row : WindowRow) : Json.Value :=
  .object [("clientId", .text row.client), ("endpoint", .text row.endpoint),
    ("windowStart", .nat row.start), ("requestCount", .nat row.requests),
    ("failureCount", .nat row.failures), ("throttledCount", .nat row.throttled)]

def ofTree? (t : Json.Tree) : Option WindowRow := do
  let fields ← t.fields? 6
  return {
    client := ← fields.required 0 "clientId" (·.text?)
    endpoint := ← fields.required 1 "endpoint" (·.text?)
    start := ← fields.required 2 "windowStart" (·.nat? wordMax)
    requests := ← fields.required 3 "requestCount" (·.nat? wordMax)
    failures := ← fields.required 4 "failureCount" (·.nat? wordMax)
    throttled := ← fields.required 5 "throttledCount" (·.nat? wordMax) }

end WindowRow

-- A granularity below a millisecond counts as one.
def windowWidth (granularity : Duration) : Nat := max granularity.millis 1

def windowStart (reading : Nat) (granularity : Duration) : Nat := reading - reading % windowWidth granularity

def windowCeil (reading : Nat) (granularity : Duration) : Nat :=
  let start := windowStart reading granularity
  if start = reading then reading else satAdd start (windowWidth granularity)

theorem windowWidth_pos (granularity : Duration) : 0 < windowWidth granularity := by
  unfold windowWidth; omega

theorem windowStart_le (reading : Nat) (granularity : Duration) : windowStart reading granularity ≤ reading :=
  Nat.sub_le ..

theorem lt_windowStart_add (reading : Nat) (granularity : Duration) :
    reading < windowStart reading granularity + windowWidth granularity := by
  have := Nat.mod_lt reading (windowWidth_pos granularity)
  unfold windowStart; omega

end Turnstile
