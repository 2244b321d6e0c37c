namespace Turnstile.Text

-- First and last code point of each run of characters with the property White_Space.
def whiteSpaceRuns : List (Nat × Nat) :=
  [(0x0009, 0x000D), (0x0020, 0x0020), (0x0085, 0x0085), (0x00A0, 0x00A0), (0x1680, 0x1680),
   (0x2000, 0x200A), (0x2028, 0x2029), (0x202F, 0x202F), (0x205F, 0x205F), (0x3000, 0x3000)]

-- First and last code point of each run of characters of category Cc.
def controlRuns : List (Nat × Nat) := [(0x0000, 0x001F), (0x007F, 0x009F)]

def inRuns (runs : List (Nat × Nat)) (c : Char) : Bool :=
  runs.any fun run => run.1 ≤ c.toNat && c.toNat ≤ run.2

def isBlank (c : Char) : Bool := inRuns whiteSpaceRuns c || inRuns controlRuns c

example : (whiteSpaceRuns.map fun run => run.2 + 1 - run.1).sum = 25 := by decide

example : (controlRuns.map fun run => run.2 + 1 - run.1).sum = 65 := by decide

theorem isBlank_of_isWhitespace {c : Char} (h : c.isWhitespace = true) : isBlank c = true := by
  simp only [Char.isWhitespace, Bool.or_eq_true, decide_eq_true_eq] at h
  rcases h with ((rfl | rfl) | rfl) | rfl <;> decide

end Turnstile.Text
