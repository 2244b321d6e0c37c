import Mathlib.Tactic.IntervalCases
import Turnstile.Proofs.Json.Scanning
namespace Turnstile.Json

namespace Numeral

def ofNat (negative : Bool) (n : Nat) : Numeral := ⟨negative, (Decimal.digits n).map (·.toNat - 48), [], none⟩

theorem digitsValue_digits (n : Nat) : digitsValue ((Decimal.digits n).map (·.toNat - 48)) = n := by
  have value := Nat.ofDigitChars_ten_toDigits (n := n)
  rw [Nat.ofDigitChars_eq_foldl] at value
  unfold digitsValue Decimal.digits
  rw [List.foldl_map]
  simpa [Nat.mul_comm] using value

theorem number?_ofNat {n : Nat} (fits : n ≤ wordMax) : (ofNat false n).number? = some (.natural n) := by
  simp [number?, ofNat, isWhole, digitsValue_digits, fits]

theorem number?_ofNat_negative {n : Nat} (fits : n ≤ signedMax) : (ofNat true (n + 1)).number? = some (.negSucc n) := by
  simp [number?, ofNat, isWhole, digitsValue_digits, fits]

end Numeral

namespace Scanner

-- How far a numeral has been read after the digits of a number.
def counting (negative : Bool) (n : Nat) : OpenNumeral :=
  ⟨if n = 0 then .zero else .whole, negative, ((Decimal.digits n).map (·.toNat - 48)).reverse, [], none⟩

theorem digit?_digitChar {d : Nat} (small : d < 10) : digit? d.digitChar = some d := by
  unfold digit?
  have bounds : '0' ≤ d.digitChar ∧ d.digitChar ≤ '9' := by interval_cases d <;> decide
  rw [if_pos bounds, Nat.toNat_digitChar_sub_48_of_lt_ten small]

theorem outside_digitChar (tokens : List Token) {d : Nat} (small : d < 10) :
    outside tokens d.digitChar = some ⟨tokens, .numeral (.ofDigit false d)⟩ := by
  interval_cases d <;> rfl

-- The first digit decides whether more may follow, so that the induction is on the digits in front of the last.
theorem run_digits {s : Scanner} {tokens : List Token} {negative : Bool}
    (first : ∀ d < 10, s.step d.digitChar = some ⟨tokens, .numeral (.ofDigit negative d)⟩) (n : Nat) :
    (Decimal.digits n).foldlM step s = some ⟨tokens, .numeral (counting negative n)⟩ := by
  induction n using Nat.base_induction 10 (by decide) with
  | single d small =>
    unfold Decimal.digits counting Decimal.digits
    rw [Nat.toDigits_of_lt_base small, List.foldlM_cons, first d small]
    simp [OpenNumeral.ofDigit, Nat.toNat_digitChar_sub_48_of_lt_ten small]
  | digit m d small positive ih =>
    have joined : Decimal.digits (10 * m + d) = Decimal.digits m ++ [d.digitChar] := by
      unfold Decimal.digits
      rw [← Nat.toDigits_append_toDigits (by decide) positive small, Nat.toDigits_of_lt_base small]
    rw [joined, List.foldlM_append, ih]
    unfold counting
    rw [if_neg (Nat.ne_of_gt positive), if_neg (by omega : 10 * m + d ≠ 0), joined]
    simp [step, OpenNumeral.step, digit?_digitChar small, Nat.toNat_digitChar_sub_48_of_lt_ten small]

end Scanner

open Scanner

theorem tokens?_digits (n : Nat) : tokens? (Decimal.digits n) = some [.numeral (.ofNat false n)] := by
  have read := run_digits (s := start) (fun d small => outside_digitChar [] small) n
  refine tokens?_eq_some.2 ⟨_, read, ?_⟩
  by_cases zero : n = 0 <;> simp [finish, counting, NumeralStage.complete, zero, OpenNumeral.finish, Numeral.ofNat]

theorem tokens?_minus_digits (n : Nat) : tokens? ('-' :: Decimal.digits n) = some [.numeral (.ofNat true n)] := by
  have first (d : Nat) (small : d < 10) : (⟨[], .numeral .ofSign⟩ : Scanner).step d.digitChar =
      some ⟨[], .numeral (.ofDigit true d)⟩ := by
    interval_cases d <;> rfl
  have read := run_digits first n
  refine tokens?_eq_some.2 ⟨_, read, ?_⟩
  by_cases zero : n = 0 <;> simp [finish, counting, NumeralStage.complete, zero, OpenNumeral.finish, Numeral.ofNat]

namespace Scanner

open Value

-- Inside a string, with these characters read, last to first.
def within (tokens : List Token) (chars : List Char) : Scanner := ⟨tokens, .text ⟨some chars, none, .none⟩⟩

theorem hexDigit?_hexChar {d : Nat} (small : d < 16) : hexDigit? (hexChar d) = some d := by
  interval_cases d <;> rfl

variable {c : Char}

theorem run_control (tokens : List Token) (chars : List Char) (control : c.toNat < 0x20) :
    ['\\', 'u', '0', '0', hexChar (c.toNat / 16), hexChar (c.toNat % 16)].foldlM step (within tokens chars) =
      some (within tokens (c :: chars)) := by
  have high := hexDigit?_hexChar (d := c.toNat / 16) (by omega)
  have low := hexDigit?_hexChar (d := c.toNat % 16) (by omega)
  have whole : c.toNat / 16 * 16 + c.toNat % 16 = c.toNat := Nat.div_add_mod' ..
  have single : ¬(0xD800 ≤ c.toNat ∧ c.toNat ≤ 0xDBFF) ∧ ¬(0xDC00 ≤ c.toNat ∧ c.toNat ≤ 0xDFFF) := by omega
  have opened : ['\\', 'u', '0', '0'].foldlM step (within tokens chars) = some ⟨tokens, .text ⟨some chars, none, .hex 0 2⟩⟩ := rfl
  have closed : [hexChar (c.toNat / 16), hexChar (c.toNat % 16)].foldlM step ⟨tokens, .text ⟨some chars, none, .hex 0 2⟩⟩ =
      some (within tokens (c :: chars)) := by
    simp [within, step, OpenText.step, OpenText.atEnd, high, low, whole, OpenText.pushUnit, single, OpenText.push]
  show (['\\', 'u', '0', '0'] ++ [hexChar (c.toNat / 16), hexChar (c.toNat % 16)]).foldlM step (within tokens chars) = _
  rw [List.foldlM_append, opened]
  exact closed

theorem run_escapeChar (tokens : List Token) (chars : List Char) (c : Char) :
    (escapeChar c).foldlM step (within tokens chars) = some (within tokens (c :: chars)) := by
  unfold escapeChar
  -- the escapes of one letter
  iterate 7
    split
    · rename_i same
      subst same
      rfl
  split
  · rename_i control
    exact run_control tokens chars control
  · simp_all [within, step, OpenText.step, OpenText.atEnd, OpenText.push]

theorem run_escaped (tokens : List Token) (chars s : List Char) :
    (s.flatMap escapeChar).foldlM step (within tokens chars) = some (within tokens (s.reverse ++ chars)) := by
  induction s generalizing chars with
  | nil => rfl
  | cons c s ih =>
    rw [List.flatMap_cons, List.foldlM_append, run_escapeChar]
    simpa using ih (c :: chars)

end Scanner

theorem tokens?_quote (s : String) : tokens? (Value.quote s.toList) = some [.text (some s)] := by
  have read := run_escaped [] [] s.toList
  refine tokens?_eq_some.2 ⟨⟨[.text (some s)], .nothing⟩, ?_, rfl⟩
  show (s.toList.flatMap Value.escapeChar ++ ['"']).foldlM step (within [] []) = _
  rw [List.foldlM_append, read]
  simp [within, step, OpenText.atEnd, OpenText.finish]

end Turnstile.Json
