import Turnstile.Decimal.Shortest
import Turnstile.Json.Tree
namespace Turnstile.Json

inductive Value where
  | null
  | bool (b : Bool)
  | number (n : Number)
  | text (s : String)
  | array (items : List Value)
  | object (members : List (String × Value))
deriving Repr, Inhabited

namespace Value

def nat (n : Nat) : Value := .number (.natural n)

def ofOption {α : Type} (toValue : α → Value) : Option α → Value
  | none => .null
  | some a => toValue a

def hexChar (d : Nat) : Char := Char.ofNat (if d < 10 then 48 + d else 87 + d)

def escapeChar (c : Char) : List Char :=
  if c = '"' then ['\\', '"']
  else if c = '\\' then ['\\', '\\']
  else if c = '\x08' then ['\\', 'b']
  else if c = '\x0c' then ['\\', 'f']
  else if c = '\n' then ['\\', 'n']
  else if c = '\r' then ['\\', 'r']
  else if c = '\t' then ['\\', 't']
  else if c.toNat < 0x20 then
    ['\\', 'u', '0', '0', hexChar (c.toNat / 16), hexChar (c.toNat % 16)]
  else [c]

def quote (s : List Char) : List Char := '"' :: (s.flatMap escapeChar ++ ['"'])

def writeNumber : Number → List Char
  | .natural n => Decimal.digits n
  | .negSucc n => '-' :: Decimal.digits (n + 1)
  | .double f => Decimal.documentText f

mutual

def write : Value → List Char
  | .null => ['n', 'u', 'l', 'l']
  | .bool true => ['t', 'r', 'u', 'e']
  | .bool false => ['f', 'a', 'l', 's', 'e']
  | .number n => writeNumber n
  | .text s => quote s.toList
  | .array items => '[' :: writeItems items
  | .object members => '{' :: writeMembers members

def writeItems : List Value → List Char
  | [] => [']']
  | [item] => write item ++ [']']
  | item :: next :: rest => write item ++ ',' :: writeItems (next :: rest)

def writeMembers : List (String × Value) → List Char
  | [] => ['}']
  | [(key, value)] => quote key.toList ++ ':' :: (write value ++ ['}'])
  | (key, value) :: next :: rest =>
    quote key.toList ++ ':' :: (write value ++ ',' :: writeMembers (next :: rest))

end

def render (v : Value) : String := String.ofList v.write

-- Members stand in the order of their keys; of a key given twice the last value counts.
def insertMember (key : String) (value : Value) : List (String × Value) → List (String × Value)
  | [] => [(key, value)]
  | (k, v) :: rest =>
    if key = k then (key, value) :: rest
    else if key < k then (key, value) :: (k, v) :: rest
    else (k, v) :: insertMember key value rest

mutual

-- At most `depth` containers may stand inside one another.
def ofTree? (depth : Nat) : Tree → Option Value
  | .null => some .null
  | .bool b => some (.bool b)
  | .numeral n => n.number?.map .number
  | .text s => s.map .text
  | .array items => if depth = 0 then none else (ofTrees? (depth - 1) items).map .array
  | .object members => if depth = 0 then none else (ofMembers? (depth - 1) [] members).map .object

def ofTrees? (depth : Nat) : List Tree → Option (List Value)
  | [] => some []
  | item :: rest => do
    let value ← ofTree? depth item
    let values ← ofTrees? depth rest
    return value :: values

def ofMembers? (depth : Nat) (found : List (String × Value)) :
    List (Option String × Tree) → Option (List (String × Value))
  | [] => some found
  | (key, tree) :: rest => do
    let key ← key
    let value ← ofTree? depth tree
    ofMembers? depth (insertMember key value found) rest

end

end Value

end Turnstile.Json
