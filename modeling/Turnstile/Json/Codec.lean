import Turnstile.Json.Record
namespace Turnstile.Json

structure Codec (α : Type) where
  toValue : α → Value
  ofTree? : Tree → Option α

namespace Codec

variable {α : Type}

def encode (c : Codec α) (a : α) : String := (c.toValue a).render

def decode? (c : Codec α) (text : String) : Option α := (tree? text.toList).bind c.ofTree?

def rewrite? (c : Codec α) (text : String) : Option String := (c.decode? text).map c.encode

end Codec

end Turnstile.Json
