namespace Turnstile

def wordMax : Nat := 18446744073709551615

def halfMax : Nat := 4294967295

def signedMax : Nat := 9223372036854775807

def satAdd (a b : Nat) : Nat := min (a + b) wordMax

def satMul (a b : Nat) : Nat := min (a * b) wordMax

theorem satAdd_le (a b : Nat) : satAdd a b ≤ wordMax := Nat.min_le_right ..

theorem satMul_le (a b : Nat) : satMul a b ≤ wordMax := Nat.min_le_right ..

theorem le_satAdd {a b : Nat} (fits : a ≤ wordMax) : a ≤ satAdd a b := by
  unfold satAdd; omega

theorem satAdd_eq {a b : Nat} (fits : a + b ≤ wordMax) : satAdd a b = a + b := by
  unfold satAdd; omega

structure Duration where
  nanos : Nat
deriving DecidableEq, Repr

namespace Duration

def zero : Duration := ⟨0⟩

def ofSecs (n : Nat) : Duration := ⟨n * 1000000000⟩

def ofMillis (n : Nat) : Duration := ⟨n * 1000000⟩

def ofParts (secs nanos : Nat) : Duration := ⟨secs * 1000000000 + nanos⟩

def secs (d : Duration) : Nat := d.nanos / 1000000000

def subNanos (d : Duration) : Nat := d.nanos % 1000000000

-- A duration too long for one word counts as the largest word.
def millis (d : Duration) : Nat := min (d.nanos / 1000000) wordMax

def millisUp (d : Duration) : Nat := (d.nanos + 999999) / 1000000

def secsUp (d : Duration) : Nat := d.secs + (if d.subNanos > 0 then 1 else 0)

def isZero (d : Duration) : Bool := d.nanos == 0

def longer (a b : Duration) : Duration := if a.nanos ≤ b.nanos then b else a

def shorter (a b : Duration) : Duration := if a.nanos ≤ b.nanos then a else b

theorem millis_ofSecs (n : Nat) : (ofSecs n).millis = min (n * 1000) wordMax := by
  have whole : n * 1000000000 / 1000000 = n * 1000 := by omega
  unfold millis ofSecs
  rw [whole]

theorem millis_ofMillis (n : Nat) : (ofMillis n).millis = min n wordMax := by
  simp [millis, ofMillis]

theorem millis_le (d : Duration) : d.millis ≤ wordMax := Nat.min_le_right ..

theorem secs_ofParts {s n : Nat} (small : n < 1000000000) : (ofParts s n).secs = s := by
  simp only [secs, ofParts]; omega

theorem subNanos_ofParts {s n : Nat} (small : n < 1000000000) : (ofParts s n).subNanos = n := by
  simp only [subNanos, ofParts]; omega

end Duration

def remaining (now deadline : Nat) : Duration := Duration.ofMillis (deadline - now)

-- Only a clock that is moved by hand wraps around the word.
def advanceReading (now : Nat) (span : Duration) : Nat := (now + span.millis) % (wordMax + 1)

end Turnstile
