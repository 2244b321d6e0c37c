import Turnstile.Time.Text
namespace Turnstile

inductive StoreError where
  | unavailable (detail : String)
  | timeout (after : Duration)
  | backend (detail : String)
deriving DecidableEq, Repr

namespace StoreError

def isTransient : StoreError → Bool
  | .unavailable _ | .timeout _ => true
  | .backend _ => false

def message : StoreError → String
  | .unavailable detail => "store unavailable: " ++ detail
  | .timeout after => "store operation timed out after " ++ after.text
  | .backend detail => "store backend error: " ++ detail

end StoreError

end Turnstile
