import Turnstile.Time
namespace Turnstile

structure Admission where
  allowed : Bool
  retryAfter : Option Duration
  reason : String
deriving DecidableEq, Repr

inductive Denial where
  | rateLimited (retryAfter : Duration)
  | banned (reason : String) (retryAfter : Duration)
deriving DecidableEq, Repr

namespace Admission

-- A ban may not use the gate's own reasons, so that a reason tells the cause of a refusal.
def okReason : String := "ok"

def limitedReason : String := "rate_limit_exceeded"

def admitted : Admission := ⟨true, none, okReason⟩

def rateLimited (wait : Duration) : Admission := ⟨false, some wait, limitedReason⟩

def banned (left : Duration) (reason : String) : Admission := ⟨false, some left, reason⟩

def denial (a : Admission) : Option Denial :=
  if a.allowed then none
  else
    let retryAfter := a.retryAfter.getD .zero
    if a.reason = limitedReason then some (.rateLimited retryAfter)
    else some (.banned a.reason retryAfter)

end Admission

namespace Denial

def retryAfter : Denial → Duration
  | .rateLimited d => d
  | .banned _ d => d

def retryAfterSecs (d : Denial) : Nat := d.retryAfter.secsUp

def message : Denial → String
  | .rateLimited _ => "rate limit exceeded"
  | .banned _ d => s!"temporarily banned, retry after {d.secsUp} seconds"

end Denial

end Turnstile
