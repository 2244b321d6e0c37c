import Turnstile.Proofs.Limiter.Bound
namespace Turnstile.Limiter

theorem after_append {ν : Type} [Quantity ν] (l : Limiter ν) (first rest : List (Nat × Call)) :
    l.after (first ++ rest) = (l.after first).after rest := by
  induction first generalizing l with
  | nil => rfl
  | cons next others ih => exact ih _

variable {l : Limiter Rat} {client : String} {now reading : Nat} {wait : Duration} {calls : List (Nat × Call)} {rate held : Rat}

theorem level_after_other (sound : l.Sound now) (onward : Ordered now calls) (le : ∀ call ∈ calls, call.1 ≤ reading)
    (start : now ≤ reading) (silent : ∀ call ∈ calls, call.2.isBy client = false) :
    (l.after calls).level reading client = l.level reading client := by
  induction calls generalizing l now with
  | nil => rfl
  | cons first rest ih =>
    obtain ⟨next, call⟩ := first
    have soon : next ≤ reading := le (next, call) List.mem_cons_self
    have passed := sound.later onward.head
    have kept := level_serve_other passed (silent (next, call) List.mem_cons_self) soon
    have later := ih (passed.serve call) onward.tail (fun call within => le call (List.mem_cons_of_mem _ within)) soon
      fun call within => silent call (List.mem_cons_of_mem _ within)
    exact later.trans kept

theorem answer_denied (denied : answer rate held = .denied wait) :
    held + 1 / 1000000000 < 1 ∧ wait.millis = min ((1 - held) / rate * 1000).ceil.toNat wordMax := by
  unfold answer at denied
  split at denied
  · cases denied
  · rename_i few
    cases denied
    refine ⟨lt_of_not_ge few, ?_⟩
    rw [Duration.millis_ofMillis]
    exact Nat.min_eq_left (Nat.min_le_right _ _)

-- A token that is not there yet is missing up to its instant, and is there from then on.
theorem lt_of_early (positive : 0 < rate) {span : Nat} (early : span < ((1 - held) / rate * 1000).ceil.toNat) :
    held + (span : Rat) * rate / 1000 < 1 := by
  have below : (span : Int) < ((1 - held) / rate * 1000).ceil := Int.lt_toNat.1 early
  have short : ((span : Int) : Rat) < (1 - held) / rate * 1000 := Rat.lt_ceil_iff.1 below
  rw [Int.cast_natCast, div_mul_eq_mul_div, lt_div_iff₀ positive] at short
  linarith

theorem le_of_late (positive : 0 < rate) {span : Nat} (late : ((1 - held) / rate * 1000).ceil.toNat ≤ span) :
    1 ≤ held + (span : Rat) * rate / 1000 := by
  have above : ((1 - held) / rate * 1000).ceil ≤ (span : Int) := Int.toNat_le.1 late
  have enough : (1 - held) / rate * 1000 ≤ ((span : Int) : Rat) := Rat.ceil_le_iff.1 above
  rw [Int.cast_natCast, div_mul_eq_mul_div, div_le_iff₀ positive] at enough
  linarith

section
variable (sound : l.Sound now) (denied : (l.acquire now client).1 = .denied wait)
include sound denied

theorem answer_of_denied : answer l.rate (l.level now client) = .denied wait := by
  rw [acquire_eq sound] at denied
  exact denied

theorem level_denied (le : now ≤ reading) : (l.acquire now client).2.level reading client = l.level reading client := by
  have few := (answer_denied (answer_of_denied sound denied)).1
  have kept : left (l.level now client) = l.level now client := if_neg (not_le.2 few)
  rw [level_later (sound.acquire client) le, level_acquire_self sound, kept, level_later sound le, acquire_eq sound]

theorem level_lt_of_early (le : now ≤ reading) (early : reading < now + wait.millis) : l.level reading client < 1 := by
  have told := (answer_denied (answer_of_denied sound denied)).2
  rw [level_later sound le]
  exact lt_of_le_of_lt (min_le_left _ _) (lt_of_early sound.rate (by omega))

theorem le_level_of_late (whole : (1 - l.level now client) / l.rate * 1000 ≤ wordMax) (late : now + wait.millis ≤ reading) :
    1 ≤ l.level reading client := by
  have told := (answer_denied (answer_of_denied sound denied)).2
  have fits : ((1 - l.level now client) / l.rate * 1000).ceil.toNat ≤ wordMax :=
    Int.toNat_le.2 (Rat.ceil_le_iff.2 (by exact_mod_cast whole))
  rw [level_later sound (by omega)]
  exact le_min (le_of_late sound.rate (by omega)) sound.burst

-- Whatever is asked after the refusal but by the client itself, it holds less than a token until its wait is over, and is let
-- through from then on, unless the wait was cut to what one word holds.
theorem wait_exact (onward : Ordered now calls) (le : ∀ call ∈ calls, call.1 ≤ reading) (start : now ≤ reading)
    (silent : ∀ call ∈ calls, call.2.isBy client = false) :
    (reading < now + wait.millis →
      ∃ held, ((l.acquire now client).2.after calls).available reading client = some held ∧ held < 1) ∧
    ((1 - l.level now client) / l.rate * 1000 ≤ wordMax → now + wait.millis ≤ reading →
      (((l.acquire now client).2.after calls).acquire reading client).1.isAllowed = true) := by
  have next := sound.acquire client
  have reached := sound_after next onward le start
  have level := (level_after_other next onward le start silent).trans (level_denied sound denied start)
  constructor
  · intro early
    have short := level_lt_of_early sound denied start early
    cases found : ((l.acquire now client).2.after calls).buckets.get? client with
    | some b =>
      refine ⟨_, congrArg (Option.map _) found, ?_⟩
      rw [← level_some found, level]
      exact short
    | none =>
      have full : ((l.acquire now client).2.after calls).level reading client = _ := level_none found
      have burst := reached.burst
      rw [level] at full
      linarith
  · intro whole late
    have enough := le_level_of_late sound denied whole late
    rw [acquire_eq reached, answer_isAllowed, level]
    linarith

end

end Turnstile.Limiter
