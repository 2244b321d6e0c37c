import Turnstile.Ban
import Turnstile.LoginAttempt
import Turnstile.Store.Error
import Turnstile.Window
namespace Turnstile

inductive Call where
  | increment (client endpoint : String) (start : Nat) (outcome : Outcome)
  | count (client endpoint : String) (since : Nat)
  | append (attempt : LoginAttempt)
  | upsert (ban : Ban)
  | release (address : String) (reading : Nat) (actor : String) (automatic : Bool)
  | active (now : Nat)
  | releaseExpired (now : Nat)
  | archive (cutoff : Nat)
  | purgeAttempts (cutoff : Nat)
  | purgeBans (cutoff : Nat)
deriving DecidableEq, Repr

-- The kind of a call fixes the type of its answer, so that two stores can be compared call by call.
def Call.Answer : Call → Type
  | .increment .. | .append _ | .upsert _ => Unit
  | .count .. => Counts
  | .release .. => Option Ban
  | .active _ | .releaseExpired _ => List Ban
  | .archive _ | .purgeAttempts _ | .purgeBans _ => Nat

def systemActor : String := "system"

end Turnstile
