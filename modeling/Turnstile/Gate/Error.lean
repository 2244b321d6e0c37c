import Turnstile.Client
import Turnstile.Escalation
import Turnstile.Gate.Admission
import Turnstile.Store.Error
namespace Turnstile

-- A refused request is no error.
inductive GateError where
  | client (fault : ClientFault)
  | banDuration (got : Duration)
  | banReason (got : String)
  | config (e : ConfigError)
  | policy (e : PolicyError)
  | store (e : StoreError)
deriving Repr

def GateError.message : GateError → String
  | .client fault => "invalid client id: " ++ fault.message
  | .banDuration got => "ban duration must be > 0 (got " ++ got.text ++ ")"
  | .banReason got => "reserved or empty ban reason \x60" ++ got ++ "\x60"
  | .config e => e.message
  | .policy e => e.message
  | .store e => e.message

def auditErrorMessage (detail : String) : String := "audit sink: " ++ detail

inductive ServiceError where
  | denied (a : Admission)
  | gate (e : GateError)
  | inner (detail : String)
deriving Repr

def ServiceError.message : ServiceError → String
  | .denied a => "request denied: " ++ a.reason
  | .gate e => e.message
  | .inner detail => "inner service: " ++ detail

end Turnstile
