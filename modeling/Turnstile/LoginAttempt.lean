import Turnstile.Json.Record
namespace Turnstile

structure LoginAttempt where
  username : String
  address : String
  success : Bool
  failureReason : Option String
  -- Refused by the token bucket before the credentials were looked at.
  rateLimited : Bool
  timestamp : Nat
deriving DecidableEq, Repr

namespace LoginAttempt

def toValue (a : LoginAttempt) : Json.Value :=
  .object [("username", .text a.username), ("ipAddress", .text a.address),
    ("success", .bool a.success), ("failureReason", .ofOption .text a.failureReason),
    ("rateLimited", .bool a.rateLimited), ("timestamp", .nat a.timestamp)]

def ofTree? (t : Json.Tree) : Option LoginAttempt := do
  let fields ← t.fields? 6
  return {
    username := ← fields.required 0 "username" (·.text?)
    address := ← fields.required 1 "ipAddress" (·.text?)
    success := ← fields.required 2 "success" (·.bool?)
    failureReason := ← fields.nullable 3 "failureReason" (·.text?)
    rateLimited := ← fields.required 4 "rateLimited" (·.bool?)
    timestamp := ← fields.required 5 "timestamp" (·.nat? wordMax) }

end LoginAttempt

end Turnstile
