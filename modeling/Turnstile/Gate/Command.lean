import Turnstile.Gate.Entry
import Turnstile.Gate.Maintain
namespace Turnstile

inductive Command where
  | enter (client endpoint : String) (critical : Bool)
  | serve (client endpoint : String) (critical : Bool) (inner : Gate.Inner)
  | login (client endpoint username : String) (success : Bool) (why : Option String)
  | refused (client username : String) (admission : Admission)
  | outcome (client endpoint : String) (success : Bool)
  | ban (client reason : String) (length : Duration) (failures : Nat) (actor : String)
  | unban (client actor : String) (note : Option String)
  | release (client actor reason : String)
  | restore
  | expire
  | prune (before : Nat)
  | reconfigure (config : Config)
  | acquire (client : String)
  | maintain (force : Bool)
  | record (client endpoint : String) (outcome : Outcome)
  | append (attempt : LoginAttempt)
  | counts (client endpoint : String) (since : Nat)
  | clock (reading : Nat)
deriving Repr

inductive Reply where
  | nothing
  | admission (result : Except GateError Admission)
  | served (result : Except ServiceError String)
  | reported (result : Except GateError Unit)
  | banned (result : Except GateError Ban)
  | unbanned (result : Except GateError (Option Ban))
  | restored (result : Except StoreError Nat)
  | expired (bans : List Ban)
  | forgotten (floors : Nat)
  | decision (d : Decision)
  | report (r : Option Report)
  | counted (readings : CountReadings)

namespace Command

variable {ν : Type}

-- A run can be cut down to the commands that are made on behalf of one client.
def client? : Command → Option String
  | .enter client .. | .serve client .. | .login client .. | .refused client .. | .outcome client ..
  | .ban client .. | .unban client .. | .release client .. | .acquire client | .record client ..
  | .counts client .. => some client
  | .append attempt => some attempt.address
  | _ => none

def routine [Quantity ν] : Command → Routine (Gate ν) Reply
  | .enter client endpoint critical => .admission <$> Gate.enter client endpoint critical
  | .serve client endpoint critical inner => .served <$> Gate.serve client endpoint critical inner
  | .login client endpoint username success why =>
    .reported <$> .update (·.reportLogin client endpoint username success why)
  | .refused client username admission =>
    .reported <$> .update (·.reportRefused client username admission)
  | .outcome client endpoint success => .reported <$> .update (·.reportOutcome client endpoint success)
  | .ban client reason length failures actor =>
    .banned <$> .update (·.ban client reason length failures actor)
  | .unban client actor note => .unbanned <$> .update (·.unban client actor note)
  | .release client actor reason => .reported <$> .update (·.release client actor reason)
  | .restore => .restored <$> Gate.restore
  | .expire => .expired <$> .update (·.expire)
  | .prune before => .forgotten <$> .update (·.pruneFloors before)
  | .reconfigure config => .reported <$> .update (·.reconfigure config)
  | .acquire client => .decision <$> .update (·.acquire client)
  | .maintain force => .report <$> Gate.maintain force
  | .record client endpoint kind =>
    (fun _ => .nothing) <$> .change (·.count client endpoint kind)
  | .append attempt => (fun _ => .nothing) <$> .change (·.appendAttempt attempt)
  | .counts client endpoint since => do
    let g ← Routine.state
    .counted <$> g.tally.readings client endpoint since
  | .clock reading => (fun _ => .nothing) <$> .change ({ · with now := reading })

end Command

end Turnstile
