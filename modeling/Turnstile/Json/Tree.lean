import Turnstile.Json.Token
namespace Turnstile.Json

-- Whether a numeral denotes a number, and a string a text, is left open here: a member that no reader
-- asks for may hold numerals and strings that denote nothing.
inductive Tree where
  | null
  | bool (b : Bool)
  | numeral (n : Numeral)
  | text (s : Option String)
  | array (items : List Tree)
  | object (members : List (Option String × Tree))
deriving Repr, Inhabited

abbrev Member := Option String × Tree

-- What a container holds so far is held last to first.
inductive Frame where
  | array (items : List Tree)
  | object (members : List Member) (key : Option String)
deriving Repr

inductive Expect where
  | value
  | firstValue
  | key (members : List Member)
  | firstKey
  | colon (members : List Member) (key : Option String)
  | next
  | finished (tree : Tree)
deriving Repr

structure Assembler where
  stack : List Frame
  expect : Expect
deriving Repr

namespace Assembler

def start : Assembler := ⟨[], .value⟩

def place (stack : List Frame) (tree : Tree) : Assembler :=
  match stack with
  | [] => ⟨[], .finished tree⟩
  | .array items :: rest => ⟨.array (tree :: items) :: rest, .next⟩
  | .object members key :: rest => ⟨.object ((key, tree) :: members) key :: rest, .next⟩

def openValue (stack : List Frame) : Token → Option Assembler
  | .null => some (place stack .null)
  | .bool b => some (place stack (.bool b))
  | .numeral n => some (place stack (.numeral n))
  | .text s => some (place stack (.text s))
  | .openBracket => some ⟨.array [] :: stack, .firstValue⟩
  | .openBrace => some ⟨stack, .firstKey⟩
  | _ => none

def step (a : Assembler) (token : Token) : Option Assembler :=
  match a.expect, token with
  | .value, token => openValue a.stack token
  | .firstValue, .closeBracket =>
    match a.stack with
    | .array items :: rest => some (place rest (.array items.reverse))
    | _ => none
  | .firstValue, token => openValue a.stack token
  | .firstKey, .closeBrace => some (place a.stack (.object []))
  | .firstKey, .text s => some ⟨a.stack, .colon [] s⟩
  | .key members, .text s => some ⟨a.stack, .colon members s⟩
  | .colon members key, .colon => some ⟨.object members key :: a.stack, .value⟩
  | .next, .comma =>
    match a.stack with
    | .array items :: rest => some ⟨.array items :: rest, .value⟩
    | .object members _ :: rest => some ⟨rest, .key members⟩
    | [] => none
  | .next, .closeBracket =>
    match a.stack with
    | .array items :: rest => some (place rest (.array items.reverse))
    | _ => none
  | .next, .closeBrace =>
    match a.stack with
    | .object members _ :: rest => some (place rest (.object members.reverse))
    | _ => none
  | _, _ => none

def finish (a : Assembler) : Option Tree :=
  match a.expect with
  | .finished tree => some tree
  | _ => none

end Assembler

def treeOfTokens? (tokens : List Token) : Option Tree :=
  (tokens.foldlM Assembler.step Assembler.start).bind Assembler.finish

def tree? (text : List Char) : Option Tree := (tokens? text).bind treeOfTokens?

end Turnstile.Json
