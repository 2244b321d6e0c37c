import Turnstile.Ban
namespace Turnstile

structure Event where
  actor : String
  action : String
  entityType : String
  entity : String
  oldValues : Option Json.Value
  newValues : Option Json.Value
  context : Option String
  reading : Nat
deriving Repr

namespace Event

-- Where there is nothing to say, the member is left out.
def optionalMember {α : Type} (key : String) (write : α → Json.Value) :
    Option α → List (String × Json.Value)
  | none => []
  | some a => [(key, write a)]

def toValue (e : Event) : Json.Value :=
  .object ([("actorId", .text e.actor), ("action", .text e.action),
      ("entityType", .text e.entityType), ("entityId", .text e.entity)]
    ++ optionalMember "oldValues" id e.oldValues ++ optionalMember "newValues" id e.newValues
    ++ optionalMember "clientContext" .text e.context ++ [("atMillis", .nat e.reading)])

-- How many containers may stand inside one another in a free value of an event.
def freeDepth : Nat := 126

def ofTree? (t : Json.Tree) : Option Event := do
  let fields ← t.fields? 8
  let free (place : Nat) (name : String) : Option (Option Json.Value) :=
    fields.defaulted place [name] none (·.nullable? (Json.Value.ofTree? freeDepth))
  return {
    actor := ← fields.required 0 "actorId" (·.text?)
    action := ← fields.required 1 "action" (·.text?)
    entityType := ← fields.required 2 "entityType" (·.text?)
    entity := ← fields.required 3 "entityId" (·.text?)
    oldValues := ← free 4 "oldValues"
    newValues := ← free 5 "newValues"
    context := ← fields.defaulted 6 ["clientContext"] none (·.nullable? (·.text?))
    reading := ← fields.required 7 "atMillis" (·.nat? wordMax) }

def banEntity : String := "ip_ban"

def bannedAction : String := "ip_banned"

def unbannedAction : String := "ip_unbanned"

def autoReleasedAction : String := "ip_auto_released"

def deniedAction : String := "access_denied"

def banned (previous : Option Ban) (ban : Ban) (actor : String) (now : Nat) : Event where
  actor
  action := bannedAction
  entityType := banEntity
  entity := ban.address
  oldValues := previous.map Ban.summary
  newValues := some ban.summary
  context := none
  reading := now

def unbanned (before after : Ban) (actor : String) (note : Option String) (now : Nat) : Event where
  actor
  action := unbannedAction
  entityType := banEntity
  entity := before.address
  oldValues := some before.summary
  newValues := some after.summary
  context := note
  reading := now

def autoReleased (ban : Ban) (now : Nat) : Event where
  actor := ban.releasedBy.getD "system"
  action := autoReleasedAction
  entityType := banEntity
  entity := ban.address
  oldValues := none
  newValues := some ban.summary
  context := none
  reading := ban.releasedAt.getD now

def accessDenied (client endpoint reason : String) (now : Nat) : Event where
  actor := "system"
  action := deniedAction
  entityType := "endpoint"
  entity := endpoint
  oldValues := none
  newValues := some (.object [("client", .text client), ("reason", .text reason)])
  context := some client
  reading := now

def line (e : Event) : String := e.toValue.render

-- Automatic releases of one instant have no order among themselves.
def isConcurrent (a b : Event) : Bool :=
  a.action == autoReleasedAction && b.action == autoReleasedAction && a.reading == b.reading

def place (e : Event) : List Event → List Event
  | [] => [e]
  | f :: rest =>
    if isConcurrent e f && decide (f.entity < e.entity) then f :: place e rest else e :: f :: rest

def byInstant (events : List Event) : List Event := events.foldr place []

end Event

end Turnstile
