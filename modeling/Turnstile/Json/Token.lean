import Turnstile.Json.Numeral
namespace Turnstile.Json

inductive Token where
  | openBrace
  | closeBrace
  | openBracket
  | closeBracket
  | comma
  | colon
  | null
  | bool (b : Bool)
  | numeral (n : Numeral)
  -- None when half of a surrogate pair stands alone: whether that matters depends on where the string stands.
  | text (s : Option String)
deriving DecidableEq, Repr

inductive NumeralStage where
  | sign
  | zero
  | whole
  | point
  | fraction
  | mark
  | markSign
  | power
deriving DecidableEq, Repr

def NumeralStage.complete : NumeralStage → Bool
  | .zero | .whole | .fraction | .power => true
  | _ => false

-- Digits are held last to first, and so are characters and tokens below.
structure OpenNumeral where
  stage : NumeralStage
  negative : Bool
  whole : List Nat
  fraction : List Nat
  power : Option (Bool × List Nat)
deriving Repr

inductive Escape where
  | none
  | started
  | hex (value : Nat) (missing : Nat)
deriving Repr

structure OpenText where
  chars : Option (List Char)
  high : Option Nat
  escape : Escape
deriving Repr

inductive Reading where
  | nothing
  | word (letters : List Char)
  | text (t : OpenText)
  | numeral (n : OpenNumeral)
deriving Repr

structure Scanner where
  tokens : List Token
  reading : Reading
deriving Repr

def isSpace (c : Char) : Bool := c == ' ' || c == '\n' || c == '\t' || c == '\r'

def digit? (c : Char) : Option Nat :=
  if '0' ≤ c ∧ c ≤ '9' then some (c.toNat - 48) else none

def hexDigit? (c : Char) : Option Nat :=
  if '0' ≤ c ∧ c ≤ '9' then some (c.toNat - 48)
  else if 'a' ≤ c ∧ c ≤ 'f' then some (c.toNat - 87)
  else if 'A' ≤ c ∧ c ≤ 'F' then some (c.toNat - 55)
  else none

def shortEscape? : Char → Option Char
  | '"' => some '"'
  | '\\' => some '\\'
  | '/' => some '/'
  | 'b' => some '\x08'
  | 'f' => some '\x0c'
  | 'n' => some '\n'
  | 'r' => some '\r'
  | 't' => some '\t'
  | _ => none

def wordToken? (letters : List Char) : Option Token :=
  if letters = ['n', 'u', 'l', 'l'] then some .null
  else if letters = ['t', 'r', 'u', 'e'] then some (.bool true)
  else if letters = ['f', 'a', 'l', 's', 'e'] then some (.bool false)
  else none

namespace OpenText

def start : OpenText := ⟨some [], none, .none⟩

-- A half pair left alone by anything but its other half spoils the text.
def push (t : OpenText) (c : Char) : OpenText :=
  { chars := if t.high.isSome then none else t.chars.map (c :: ·), high := none, escape := .none }

def pushUnit (t : OpenText) (unit : Nat) : OpenText :=
  match t.high with
  | some high =>
    if 0xDC00 ≤ unit ∧ unit ≤ 0xDFFF then
      let c := Char.ofNat (0x10000 + (high - 0xD800) * 0x400 + (unit - 0xDC00))
      { chars := t.chars.map (c :: ·), high := none, escape := .none }
    else { chars := none, high := none, escape := .none }
  | none =>
    if 0xD800 ≤ unit ∧ unit ≤ 0xDBFF then { t with high := some unit, escape := .none }
    else if 0xDC00 ≤ unit ∧ unit ≤ 0xDFFF then { chars := none, high := none, escape := .none }
    else t.push (Char.ofNat unit)

def finish (t : OpenText) : Option String :=
  if t.high.isSome then none else t.chars.map fun chars => String.ofList chars.reverse

def step (t : OpenText) (c : Char) : Option OpenText :=
  match t.escape with
  | .none =>
    if c = '\\' then some { t with escape := .started }
    else if c.toNat < 0x20 then none
    else some (t.push c)
  | .started =>
    if c = 'u' then some { t with escape := .hex 0 4 }
    else (shortEscape? c).map t.push
  | .hex value missing =>
    (hexDigit? c).map fun d =>
      if missing = 1 then t.pushUnit (value * 16 + d)
      else { t with escape := .hex (value * 16 + d) (missing - 1) }

def atEnd (t : OpenText) : Bool :=
  match t.escape with
  | .none => true
  | _ => false

end OpenText

namespace OpenNumeral

def ofSign : OpenNumeral := ⟨.sign, true, [], [], none⟩

def ofDigit (negative : Bool) (d : Nat) : OpenNumeral :=
  ⟨if d = 0 then .zero else .whole, negative, [d], [], none⟩

def finish (n : OpenNumeral) : Numeral :=
  ⟨n.negative, n.whole.reverse, n.fraction.reverse, n.power.map fun p => (p.1, p.2.reverse)⟩

def step (n : OpenNumeral) (c : Char) : Option OpenNumeral :=
  match n.stage, digit? c with
  | .sign, some d => some (ofDigit n.negative d)
  | .whole, some d => some { n with whole := d :: n.whole }
  | .point, some d | .fraction, some d =>
    some { n with stage := .fraction, fraction := d :: n.fraction }
  | .mark, some d => some { n with stage := .power, power := some (false, [d]) }
  | .markSign, some d | .power, some d =>
    some { n with stage := .power, power := n.power.map fun p => (p.1, d :: p.2) }
  | .zero, none | .whole, none =>
    if c = '.' then some { n with stage := .point }
    else if c = 'e' ∨ c = 'E' then some { n with stage := .mark }
    else none
  | .fraction, none => if c = 'e' ∨ c = 'E' then some { n with stage := .mark } else none
  | .mark, none =>
    if c = '+' then some { n with stage := .markSign, power := some (false, []) }
    else if c = '-' then some { n with stage := .markSign, power := some (true, []) }
    else none
  | _, _ => none

end OpenNumeral

namespace Scanner

def start : Scanner := ⟨[], .nothing⟩

def outside (tokens : List Token) (c : Char) : Option Scanner :=
  if isSpace c then some ⟨tokens, .nothing⟩
  else if c = '{' then some ⟨.openBrace :: tokens, .nothing⟩
  else if c = '}' then some ⟨.closeBrace :: tokens, .nothing⟩
  else if c = '[' then some ⟨.openBracket :: tokens, .nothing⟩
  else if c = ']' then some ⟨.closeBracket :: tokens, .nothing⟩
  else if c = ',' then some ⟨.comma :: tokens, .nothing⟩
  else if c = ':' then some ⟨.colon :: tokens, .nothing⟩
  else if c = '"' then some ⟨tokens, .text .start⟩
  else if c = '-' then some ⟨tokens, .numeral .ofSign⟩
  else if c.isAlpha then some ⟨tokens, .word [c]⟩
  else (digit? c).map fun d => ⟨tokens, .numeral (.ofDigit false d)⟩

-- A word or numeral ends before the first character that does not belong to it.
def step (s : Scanner) (c : Char) : Option Scanner :=
  match s.reading with
  | .nothing => outside s.tokens c
  | .word letters =>
    if c.isAlpha then some ⟨s.tokens, .word (c :: letters)⟩
    else (wordToken? letters.reverse).bind fun token => outside (token :: s.tokens) c
  | .text t =>
    if t.atEnd ∧ c = '"' then some ⟨.text t.finish :: s.tokens, .nothing⟩
    else (t.step c).map fun t => ⟨s.tokens, .text t⟩
  | .numeral n =>
    match n.step c with
    | some n => some ⟨s.tokens, .numeral n⟩
    | none => if n.stage.complete then outside (.numeral n.finish :: s.tokens) c else none

def finish (s : Scanner) : Option (List Token) :=
  match s.reading with
  | .nothing => some s.tokens.reverse
  | .word letters => (wordToken? letters.reverse).map fun token => (token :: s.tokens).reverse
  | .text _ => none
  | .numeral n =>
    if n.stage.complete then some (Token.numeral n.finish :: s.tokens).reverse else none

end Scanner

def tokens? (text : List Char) : Option (List Token) :=
  (text.foldlM Scanner.step Scanner.start).bind Scanner.finish

end Turnstile.Json
