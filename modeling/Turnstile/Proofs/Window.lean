import Turnstile.Window
namespace Turnstile

variable {a b start : Nat} {granularity : Duration}

theorem windowStart_eq (reading : Nat) (granularity : Duration) :
    windowStart reading granularity = reading / windowWidth granularity * windowWidth granularity := by
  have split := Nat.div_add_mod' reading (windowWidth granularity)
  unfold windowStart
  omega

theorem windowStart_mono (le : a ≤ b) (granularity : Duration) :
    windowStart a granularity ≤ windowStart b granularity := by
  rw [windowStart_eq, windowStart_eq]
  exact Nat.mul_le_mul_right _ (Nat.div_le_div_right le)

theorem windowStart_windowStart (reading : Nat) (granularity : Duration) :
    windowStart (windowStart reading granularity) granularity = windowStart reading granularity := by
  rw [windowStart_eq (windowStart ..), windowStart_eq, Nat.mul_div_cancel _ (windowWidth_pos granularity)]

theorem start_le_windowStart (aligned : windowStart start granularity = start) (reading : Nat) :
    start ≤ windowStart reading granularity ↔ start ≤ reading := by
  constructor
  · exact fun le => Nat.le_trans le (windowStart_le reading granularity)
  · intro le
    rw [← aligned]
    exact windowStart_mono le granularity

theorem windowStart_add_width (reading : Nat) (granularity : Duration) :
    windowStart (windowStart reading granularity + windowWidth granularity) granularity =
      windowStart reading granularity + windowWidth granularity := by
  have step := Nat.add_mul (reading / windowWidth granularity) 1 (windowWidth granularity)
  rw [Nat.one_mul] at step
  rw [windowStart_eq reading, ← step, windowStart_eq, Nat.mul_div_cancel _ (windowWidth_pos granularity)]

theorem windowCeil_le (reading : Nat) (granularity : Duration) :
    windowCeil reading granularity ≤ reading + windowWidth granularity := by
  have start := windowStart_le reading granularity
  unfold windowCeil satAdd
  dsimp only
  split <;> omega

section
variable (fits : a + windowWidth granularity ≤ wordMax)
include fits

theorem le_windowCeil : a ≤ windowCeil a granularity := by
  have start := windowStart_le a granularity
  have next := lt_windowStart_add a granularity
  unfold windowCeil satAdd
  dsimp only
  split <;> omega

theorem windowStart_windowCeil : windowStart (windowCeil a granularity) granularity = windowCeil a granularity := by
  have start := windowStart_le a granularity
  unfold windowCeil
  dsimp only
  split
  · rename_i same
    exact same
  · rw [satAdd_eq (by omega)]
    exact windowStart_add_width a granularity

end

-- The reading from which failures count: within the time looked back, and not before the window in which the
-- latest ban ended is over.
def countedFrom (now : Nat) (window granularity : Duration) (ended : Option Nat) : Nat :=
  windowStart
    (match ended with
      | none => now - window.millis
      | some x => max (now - window.millis) (windowCeil x granularity)) granularity

theorem windowStart_countedFrom (now : Nat) (window granularity : Duration) (ended : Option Nat) :
    windowStart (countedFrom now window granularity ended) granularity = countedFrom now window granularity ended :=
  windowStart_windowStart _ _

theorem windowStart_le_countedFrom (now : Nat) (window granularity : Duration) (ended : Option Nat) :
    windowStart (now - window.millis) granularity ≤ countedFrom now window granularity ended := by
  cases ended with
  | none => exact Nat.le_refl _
  | some x => exact windowStart_mono (Nat.le_max_left ..) granularity

theorem end_le_countedFrom {now x : Nat} (fits : x + windowWidth granularity ≤ wordMax) (window : Duration) :
    x ≤ countedFrom now window granularity (some x) :=
  calc
    x ≤ windowCeil x granularity := le_windowCeil fits
    _ = windowStart (windowCeil x granularity) granularity := (windowStart_windowCeil fits).symm
    _ ≤ countedFrom now window granularity (some x) := windowStart_mono (Nat.le_max_right ..) granularity

-- A cutoff that lies further back than policy and window reach cuts off nothing that counts.
theorem cutoff_le_countedFrom {now cutoff : Nat} {window : Duration}
    (early : cutoff ≤ now - (window.millis + windowWidth granularity)) (ended : Option Nat) :
    cutoff ≤ countedFrom now window granularity ended := by
  have least := windowStart_le_countedFrom now window granularity ended
  have next := lt_windowStart_add (now - window.millis) granularity
  omega

theorem cutoff_le {now secs : Nat} {window age : Duration} (positive : 0 < secs) (fits : now ≤ wordMax)
    (long : window.nanos + (Duration.ofSecs secs).nanos ≤ age.nanos) :
    now - age.millis ≤ now - (window.millis + windowWidth (.ofSecs secs)) := by
  unfold windowWidth Duration.millis
  unfold Duration.ofSecs at long ⊢
  dsimp only at long ⊢
  unfold wordMax at *
  omega

end Turnstile
