import Mathlib.Order.Bounds.Basic
import Mathlib.Order.MinMax
import Turnstile.Retry
namespace Turnstile

-- What ends the tries: a success, or a failure that will be met again.
def Final {α : Type} : Except StoreError α → Prop
  | .ok _ => True
  | .error e => e.isTransient = false

namespace Duration

theorem nanos_shorter (a b : Duration) : (a.shorter b).nanos = min a.nanos b.nanos := by
  unfold shorter
  split <;> omega

theorem nanos_longer (a b : Duration) : (a.longer b).nanos = max a.nanos b.nanos := by
  unfold longer
  split <;> omega

theorem millis_mul_le (d : Duration) : d.millis * 1000000 ≤ d.nanos := by
  unfold millis
  omega

end Duration

namespace Retry

variable {α : Type} {r : Retry} {jitter : Bool} {draw : Nat → Nat → Nat} {outcomes : Nat → Except StoreError α}

def scripted (outcomes : Nat → Except StoreError α) : StateM Trace (Except StoreError α) :=
  fun t => (outcomes t.calls, { t with calls := t.calls + 1 })

def cut (jitter : Bool) (draw : Nat → Nat → Nat) (full : Duration) : StateM Trace Unit :=
  fun t => ((), { t with pauses := t.pauses ++ [jittered jitter (draw t.pauses.length) full] })

def play (r : Retry) (jitter : Bool) (draw : Nat → Nat → Nat) (outcomes : Nat → Except StoreError α) : Except StoreError α × Trace :=
  (r.execute (scripted outcomes) (cut jitter draw)).run ⟨0, []⟩

theorem rehearse_eq (r : Retry) (outcomes : List (Option StoreError)) (draw : Nat → Nat → Nat) :
    r.rehearse outcomes = r.play false draw fun n =>
      match outcomes[n]? with
      | some (some e) => .error e
      | _ => .ok (n + 1) := by
  have same : (fun t : Trace => match outcomes[t.calls]? with
      | some (some e) => ((.error e, { t with calls := t.calls + 1 }) : Except StoreError Nat × Trace)
      | _ => (.ok (t.calls + 1), { t with calls := t.calls + 1 })) = scripted (fun n => match outcomes[n]? with
      | some (some e) => .error e
      | _ => .ok (n + 1)) := by
    funext t
    simp only [scripted]
    split <;> rfl
  exact congrArg (fun script : StateM Trace (Except StoreError Nat) => (r.execute script (cut false draw)).run ⟨0, []⟩) same

theorem jittered_le {draw : Nat → Nat} (within : ∀ most, draw most ≤ most) (full : Duration) :
    (jittered jitter draw full).nanos ≤ full.nanos := by
  unfold jittered
  split
  · exact Nat.le_refl _
  · exact Nat.le_trans (Nat.mul_le_mul_right _ (within _)) full.millis_mul_le

theorem executeFrom_ok {t : Trace} {a : α} (told : outcomes t.calls = .ok a) (left n : Nat) :
    r.executeFrom (scripted outcomes) (cut jitter draw) left n t = (outcomes t.calls, { t with calls := t.calls + 1 }) := by
  cases left with
  | zero => rfl
  | succ left =>
    simp [executeFrom, scripted, bind, StateT.bind, told]
    rfl

theorem executeFrom_error {t : Trace} {e : StoreError} (told : outcomes t.calls = .error e) (left n : Nat) :
    r.executeFrom (scripted outcomes) (cut jitter draw) (left + 1) n t =
      if e.isTransient then
        r.executeFrom (scripted outcomes) (cut jitter draw) left (n + 1)
          ⟨t.calls + 1, t.pauses ++ [jittered jitter (draw t.pauses.length) (r.delay n)]⟩
      else (outcomes t.calls, { t with calls := t.calls + 1 }) := by
  simp [executeFrom, scripted, bind, StateT.bind, told]
  split <;> rfl

-- The induction is on the repetitions that are left; earlier calls and pauses stay in front.
theorem executeFrom_played (r : Retry) (jitter : Bool) (draw : Nat → Nat → Nat) (outcomes : Nat → Except StoreError α) (left n : Nat)
    (t : Trace) : ∃ j ≤ left, (∀ i < j, ¬Final (outcomes (t.calls + i))) ∧
    (j = left ∨ Final (outcomes (t.calls + j))) ∧
    r.executeFrom (scripted outcomes) (cut jitter draw) left n t = (outcomes (t.calls + j), ⟨t.calls + j + 1,
      t.pauses ++ (List.range j).map fun i => jittered jitter (draw (t.pauses.length + i)) (r.delay (n + i))⟩) := by
  induction left generalizing n t with
  | zero => exact ⟨0, Nat.le_refl _, nofun, .inl rfl, by simp [executeFrom, scripted]⟩
  | succ left ih =>
    cases told : outcomes t.calls with
    | ok a =>
      refine ⟨0, Nat.zero_le _, nofun, .inr (by simp [Final, told]), ?_⟩
      rw [executeFrom_ok told]
      simp
    | error e =>
      rw [executeFrom_error told]
      by_cases again : e.isTransient = true
      · obtain ⟨j, le, before, ends, played⟩ := ih (n + 1) ⟨t.calls + 1, t.pauses ++ [jittered jitter (draw t.pauses.length) (r.delay n)]⟩
        simp only [Nat.add_assoc, Nat.add_comm 1] at before ends played
        refine ⟨j + 1, Nat.succ_le_succ le, fun i early => ?_, ends.imp (congrArg (· + 1)) id, ?_⟩
        · cases i with
          | zero => simp [Final, told, again]
          | succ i => exact before i (Nat.lt_of_succ_lt_succ early)
        · rw [if_pos again, played, List.range_succ_eq_map]
          simp [Nat.add_assoc, Nat.add_comm 1, Function.comp_def]
      · refine ⟨0, Nat.zero_le _, nofun, .inr (by simpa [Final, told] using again), ?_⟩
        rw [if_neg again]
        simp

theorem play_exact (r : Retry) (once : 0 < r.attempts) (jitter : Bool) (draw : Nat → Nat → Nat) (outcomes : Nat → Except StoreError α) :
    ∃ k, IsLeast ({r.attempts} ∪ {n | ∃ i, n = i + 1 ∧ Final (outcomes i)}) k ∧
      r.play jitter draw outcomes =
        (outcomes (k - 1), ⟨k, (List.range (k - 1)).map fun n => jittered jitter (draw n) (r.delay (n + 1))⟩) := by
  obtain ⟨j, le, before, ends, played⟩ := executeFrom_played r jitter draw outcomes (r.attempts - 1) 1 ⟨0, []⟩
  simp only [Nat.zero_add] at before ends
  refine ⟨j + 1, ⟨?_, ?_⟩, ?_⟩
  · rcases ends with rfl | final
    · exact .inl (by simp; omega)
    · exact .inr ⟨j, rfl, final⟩
  · rintro n (same | ⟨i, rfl, final⟩)
    · simp only [Set.mem_singleton_iff] at same
      omega
    · by_contra early
      exact before i (by omega) final
  · refine Eq.trans played ?_
    simp [Nat.add_comm 1]

-- Where a word or the exponent is used up, the pause has long reached the longest one.
theorem nanos_delay {base n : Nat} (whole : r.base = .ofMillis base) (word : base ≤ wordMax)
    (short : r.maxDelay.nanos ≤ max (Duration.ofMillis (Nat.pow 2 63)).nanos r.base.nanos) (positive : 1 ≤ n) :
    (r.delay n).nanos = min (r.base.nanos * Nat.pow 2 (n - 1)) r.maxDelay.nanos := by
  have millis : r.base.millis = base := by
    rw [whole, Duration.millis_ofMillis, Nat.min_eq_left word]
  have nanos : r.base.nanos * Nat.pow 2 (n - 1) = base * Nat.pow 2 (n - 1) * 1000000 := by
    rw [whole]
    exact Nat.mul_right_comm ..
  replace short : r.maxDelay.nanos ≤ max 9223372036854775808 base * 1000000 := by
    rw [whole, Duration.ofMillis, Duration.ofMillis, show Nat.pow 2 63 = 9223372036854775808 from rfl] at short
    dsimp only at short
    omega
  unfold delay satMul
  rw [if_neg (by omega), Duration.nanos_shorter, millis, nanos, Duration.ofMillis]
  dsimp only
  unfold wordMax at word ⊢
  by_cases below : n - 1 ≤ 63
  · rw [Nat.min_eq_left below]
    omega
  · rw [Nat.min_eq_right (by omega : 63 ≤ n - 1), show Nat.pow 2 63 = 9223372036854775808 from rfl]
    rcases Nat.eq_zero_or_pos base with rfl | some_time
    · simp
    · have grows : base * 9223372036854775808 ≤ base * Nat.pow 2 (n - 1) := by
        refine Nat.mul_le_mul_left base ?_
        calc
          9223372036854775808 = Nat.pow 2 63 := rfl
          _ ≤ Nat.pow 2 (n - 1) := Nat.pow_le_pow_right (by decide) (by omega)
      clear nanos
      generalize base * Nat.pow 2 (n - 1) = unbounded at grows ⊢
      omega

-- An operation is tried until an outcome is not worth another try, or as often as allowed, and that outcome is the result. One pause is
-- made between any two tries: the full one, or no more than it if it is cut. The full pauses double, up to the longest one.
theorem tries_exact (attempts base : Nat) (given : Option Duration) (word : base ≤ wordMax)
    (short : (given.getD standardMaxDelay).nanos ≤ (Duration.ofMillis (Nat.pow 2 63)).nanos) (jitter : Bool)
    (draw : Nat → Nat → Nat) (within : ∀ n most, draw n most ≤ most) (outcomes : Nat → Except StoreError α) :
    let r := make attempts (.ofMillis base) given
    (∃ k, IsLeast ({max attempts 1} ∪ {n | ∃ i, n = i + 1 ∧ Final (outcomes i)}) k ∧
      (r.play jitter draw outcomes).1 = outcomes (k - 1) ∧ (r.play jitter draw outcomes).2.calls = k ∧
      (r.play jitter draw outcomes).2.pauses.length = k - 1 ∧
      (jitter = false → (r.play jitter draw outcomes).2.pauses = (List.range (k - 1)).map fun n => r.delay (n + 1)) ∧
      ∀ n pause, (r.play jitter draw outcomes).2.pauses[n]? = some pause → pause.nanos ≤ (r.delay (n + 1)).nanos) ∧
    r.maxDelay.nanos = max (given.getD standardMaxDelay).nanos (Duration.ofMillis base).nanos ∧
    (∀ n, 1 ≤ n → (r.delay n).nanos = min ((Duration.ofMillis base).nanos * Nat.pow 2 (n - 1)) r.maxDelay.nanos) ∧
    (∀ m n, 1 ≤ m → m ≤ n → (r.delay m).nanos ≤ (r.delay n).nanos) ∧
    ∀ n, (r.delay n).nanos ≤ r.maxDelay.nanos := by
  intro r
  have longest : r.maxDelay.nanos = max (given.getD standardMaxDelay).nanos (Duration.ofMillis base).nanos := Duration.nanos_longer ..
  have full (n : Nat) (positive : 1 ≤ n) :
      (r.delay n).nanos = min ((Duration.ofMillis base).nanos * Nat.pow 2 (n - 1)) r.maxDelay.nanos :=
    nanos_delay rfl word (by rw [longest]; exact max_le_max_right _ short) positive
  refine ⟨?_, longest, full, ?_, ?_⟩
  · obtain ⟨k, least, played⟩ := play_exact r (Nat.le_max_right attempts 1) jitter draw outcomes
    refine ⟨k, least, ?_⟩
    rw [played]
    refine ⟨rfl, rfl, by simp, ?_, ?_⟩
    · rintro rfl
      simp [jittered]
    · intro n pause made
      simp only [List.getElem?_map, Option.map_eq_some_iff] at made
      obtain ⟨m, counted, rfl⟩ := made
      obtain ⟨-, rfl⟩ := List.getElem?_eq_some_iff.1 counted
      simpa using jittered_le (within n) _
  · intro m n positive le
    rw [full m positive, full n (Nat.le_trans positive le)]
    have doubled := Nat.pow_le_pow_right (n := 2) (by decide) (Nat.sub_le_sub_right le 1)
    exact min_le_min_right _ (Nat.mul_le_mul_left _ doubled)
  · intro n
    rcases Nat.eq_zero_or_pos n with rfl | positive
    · exact Nat.zero_le _
    · rw [full n positive]
      exact Nat.min_le_right ..

def refusal : Nat → Except StoreError Unit
  | 0 | 1 => .error (.timeout (.ofMillis 5))
  | 2 => .error (.backend "constraint")
  | _ => .ok ()

theorem refusal_ends_tries :
    let r := make 5 (.ofMillis 100) (some (.ofMillis 250))
    let halves := fun _ most : Nat => most / 2
    r.play true halves refusal = (.error (.backend "constraint"), ⟨3, [.ofMillis 50, .ofMillis 100]⟩) ∧
      IsLeast ({max 5 1} ∪ {n | ∃ i, n = i + 1 ∧ Final (refusal i)}) 3 ∧
      (∀ n pause, (r.play true halves refusal).2.pauses[n]? = some pause → pause.nanos ≤ (r.delay (n + 1)).nanos) ∧
      (r.delay 200).nanos = 250000000 := by
  intro r halves
  obtain ⟨⟨k, least, -, calls, -, -, within⟩, longest, full, -⟩ := tries_exact 5 100 (some (.ofMillis 250)) (by decide) (by decide)
    true halves (fun _ most => Nat.div_le_self most 2) refusal
  have played : r.play true halves refusal = (.error (.backend "constraint"), ⟨3, [.ofMillis 50, .ofMillis 100]⟩) := by decide +kernel
  change (r.play true halves refusal).2.calls = k at calls
  rw [played] at calls
  subst calls
  refine ⟨played, least, within, ?_⟩
  rw [full 200 (by decide), longest]
  decide

end Retry

end Turnstile
