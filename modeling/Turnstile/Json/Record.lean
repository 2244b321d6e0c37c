import Turnstile.Json.Value
namespace Turnstile.Json

namespace Tree

def text? : Tree → Option String
  | .text s => s
  | _ => none

def bool? : Tree → Option Bool
  | .bool b => some b
  | _ => none

def number? : Tree → Option Number
  | .numeral n => n.number?
  | _ => none

def nat? (bound : Nat) (t : Tree) : Option Nat := t.number?.bind (·.natural? bound)

def double? (t : Tree) : Option Float := t.number?.map (·.toFloat)

def nullable? {α : Type} (read : Tree → Option α) : Tree → Option (Option α)
  | .null => some none
  | t => (read t).map some

end Tree

inductive Fields where
  | members (ms : List (String × Tree))
  | items (ts : List Tree)
deriving Repr

def namedMembers? : List (Option String × Tree) → Option (List (String × Tree))
  | [] => some []
  | (none, _) :: _ => none
  | (some key, t) :: rest => (namedMembers? rest).map ((key, t) :: ·)

def Tree.fields? (count : Nat) : Tree → Option Fields
  | .object ms => (namedMembers? ms).map .members
  | .array ts => if ts.length ≤ count then some (.items ts) else none
  | _ => none

namespace Fields

-- A key of the record given twice is refused, also under two of its names; a key that the record does not
-- have is skipped, and what it holds is not looked at.
inductive Given where
  | absent
  | once (t : Tree)
  | repeated
deriving Repr

def given (fields : Fields) (place : Nat) (names : List String) : Given :=
  match fields with
  | .items ts => match ts[place]? with
    | none => .absent
    | some t => .once t
  | .members ms => match ms.filter fun m => names.contains m.1 with
    | [] => .absent
    | [m] => .once m.2
    | _ => .repeated

def required {α : Type} (fields : Fields) (place : Nat) (name : String)
    (read : Tree → Option α) : Option α :=
  match fields.given place [name] with
  | .once t => read t
  | _ => none

-- Such a field may be absent from an object, but not from an array.
def nullable {α : Type} (fields : Fields) (place : Nat) (name : String)
    (read : Tree → Option α) : Option (Option α) :=
  match fields.given place [name], fields with
  | .once t, _ => t.nullable? read
  | .absent, .members _ => some none
  | _, _ => none

def defaulted {α : Type} (fields : Fields) (place : Nat) (names : List String) (default : α)
    (read : Tree → Option α) : Option α :=
  match fields.given place names with
  | .once t => read t
  | .absent => some default
  | .repeated => none

end Fields

end Turnstile.Json
