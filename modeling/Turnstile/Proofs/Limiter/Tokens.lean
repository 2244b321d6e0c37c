import Mathlib.Algebra.Order.Ring.Rat
import Mathlib.Tactic.Linarith
import Mathlib.Tactic.Positivity
import Mathlib.Tactic.Ring
import Turnstile.Config
import Turnstile.Limiter
-- A client without a bucket would get a full one: read that way, to forget a bucket that is full again changes no level.
namespace Turnstile

namespace Quantity

theorem ratOfDouble_pos {f : Float} (good : Config.goodRate f = true) : 0 < ratOfDouble f := by
  have power (k : Nat) : (0 : Rat) < (Nat.pow 2 k : Nat) := by exact_mod_cast Nat.two_pow_pos k
  unfold Config.goodRate at good
  unfold ratOfDouble
  cases stored : Decimal.stored f with
  | finite negative m q =>
    simp only [stored, Bool.and_eq_true, Bool.not_eq_true', bne_iff_ne, ne_eq] at good
    obtain ⟨rfl, some⟩ := good
    have positive : (0 : Rat) < m := by exact_mod_cast Nat.pos_of_ne_zero some
    simp only [Bool.false_eq_true, if_false]
    split
    · exact div_pos positive (power _)
    · exact mul_pos positive (power _)
  | _ =>
    rw [stored] at good
    cases good

end Quantity

namespace Limiter

variable {l : Limiter Rat} {client other : String} {now reading : Nat} {held : Rat}

def level (l : Limiter Rat) (now : Nat) (client : String) : Rat :=
  l.tokensAt now ((l.buckets.get? client).getD ⟨l.burst, now⟩)

-- Limits that let somebody in, and buckets that were filled within them and looked at before now.
structure Sound (l : Limiter Rat) (now : Nat) : Prop where
  rate : 0 < l.rate
  burst : 1 ≤ l.burst
  buckets : ∀ client b, l.buckets.get? client = some b → 0 ≤ b.tokens ∧ b.tokens ≤ l.burst ∧ b.seen ≤ now

theorem sound_start {rate : Rat} {burst : Nat} (positive : 0 < rate) (filled : 1 ≤ burst) (now : Nat) :
    (start rate burst).Sound now where
  rate := positive
  burst := by
    have cast : (1 : Rat) ≤ (burst : Rat) := by exact_mod_cast filled
    exact cast
  buckets := nofun

theorem Sound.later (sound : l.Sound now) (le : now ≤ reading) : l.Sound reading := by
  refine ⟨sound.rate, sound.burst, ?_⟩
  intro client b found
  obtain ⟨low, high, seen⟩ := sound.buckets client b found
  exact ⟨low, high, Nat.le_trans seen le⟩

theorem tokensAt_eq (l : Limiter Rat) (now : Nat) (b : Bucket Rat) :
    l.tokensAt now b = min (b.tokens + ((now - b.seen : Nat) : Rat) * l.rate / 1000) l.burst :=
  (min_def _ _).symm

theorem tokensAt_now {tokens : Rat} (within : tokens ≤ l.burst) : l.tokensAt now ⟨tokens, now⟩ = tokens := by
  rw [tokensAt_eq]
  simp [within]

theorem level_some {b : Bucket Rat} (found : l.buckets.get? client = some b) :
    l.level now client = l.tokensAt now b := by
  simp [level, found]

theorem level_none (absent : l.buckets.get? client = none) : l.level now client = l.burst := by
  simp only [level, absent, Option.getD_none]
  exact tokensAt_now (le_refl _)

theorem level_le_burst (l : Limiter Rat) (now : Nat) (client : String) : l.level now client ≤ l.burst := by
  unfold level
  rw [tokensAt_eq]
  exact min_le_right _ _

section
variable (sound : l.Sound now)
include sound

theorem tokensAt_nonneg {b : Bucket Rat} (found : l.buckets.get? client = some b) (reading : Nat) :
    0 ≤ l.tokensAt reading b := by
  have := sound.rate
  have := sound.burst
  have := (sound.buckets client b found).1
  rw [tokensAt_eq]
  apply le_min
  · positivity
  · linarith

theorem level_nonneg (client : String) : 0 ≤ l.level now client := by
  cases found : l.buckets.get? client with
  | some b =>
    rw [level_some found]
    exact tokensAt_nonneg sound found now
  | none =>
    have := sound.burst
    rw [level_none found]
    linarith

-- What a bucket gains is the same whether it is looked at in between or not.
theorem level_later (le : now ≤ reading) (client : String) :
    l.level reading client = min (l.level now client + ((reading - now : Nat) : Rat) * l.rate / 1000) l.burst := by
  have positive := sound.rate
  have gain : 0 ≤ ((reading - now : Nat) : Rat) * l.rate / 1000 := by positivity
  cases found : l.buckets.get? client with
  | some b =>
    have seen := (sound.buckets client b found).2.2
    have split : ((reading - b.seen : Nat) : Rat) = ((now - b.seen : Nat) : Rat) + ((reading - now : Nat) : Rat) := by
      rw [← Nat.cast_add]
      congr 1
      omega
    rw [level_some found, level_some found, tokensAt_eq, tokensAt_eq, split, ← min_add_add_right, min_assoc]
    rw [min_eq_right (a := l.burst + _) (by linarith)]
    congr 1
    ring
  | none =>
    rw [level_none found, level_none found]
    exact (min_eq_right (by linarith)).symm

theorem level_later_le (le : now ≤ reading) (client : String) :
    l.level reading client ≤ l.level now client + l.rate * (reading - now) / 1000 := by
  rw [level_later sound le, Nat.cast_sub le, mul_comm l.rate]
  exact min_le_left _ _

end

def answer (rate held : Rat) : Decision :=
  if 1 ≤ held + 1 / 1000000000 then .allowed (Quantity.whole (max (held - 1) 0))
  else .denied (.ofMillis (Quantity.roundUp ((1 - held) / rate * 1000)))

def left (held : Rat) : Rat := if 1 ≤ held + 1 / 1000000000 then max (held - 1) 0 else held

theorem answer_isAllowed (rate held : Rat) : (answer rate held).isAllowed = true ↔ 1 ≤ held + 1 / 1000000000 := by
  unfold answer
  split
  · rename_i enough
    exact ⟨fun _ => enough, fun _ => rfl⟩
  · rename_i few
    exact ⟨nofun, fun enough => absurd enough few⟩

theorem left_nonneg (nonneg : 0 ≤ held) : 0 ≤ left held := by
  unfold left
  split
  · exact le_max_right _ _
  · exact nonneg

theorem left_le (nonneg : 0 ≤ held) : left held ≤ held := by
  unfold left
  split
  · exact max_le (by linarith) nonneg
  · exact le_refl _

-- Of a token that is given away, at most a billionth was not there.
theorem left_le_sub (enough : 1 ≤ held + 1 / 1000000000) :
    left held ≤ held - (1 - 1 / 1000000000) := by
  rw [left, if_pos enough]
  apply max_le
  · linarith
  · linarith

-- Whole tokens go one by one, until there is none.
theorem left_whole (n : Nat) : left ((n + 1 : Nat) : Rat) = (n : Rat) ∧
    (1 : Rat) ≤ ((n + 1 : Nat) : Rat) + 1 / 1000000000 := by
  have nonneg : (0 : Rat) ≤ (n : Rat) := Nat.cast_nonneg n
  have enough : (1 : Rat) ≤ ((n + 1 : Nat) : Rat) + 1 / 1000000000 := by
    push_cast
    linarith
  refine ⟨?_, enough⟩
  rw [left, if_pos enough]
  push_cast
  rw [add_sub_cancel_right]
  exact max_eq_left nonneg

section
variable (sound : l.Sound now)
include sound

-- The answer and the bucket afterwards depend on nothing but the limits and the level.
theorem acquire_eq (client : String) : l.acquire now client = (answer l.rate (l.level now client),
    { l with buckets := l.buckets.insert client ⟨left (l.level now client), now⟩ }) := by
  have seen : max ((l.buckets.get? client).getD ⟨l.burst, now⟩).seen now = now := by
    apply max_eq_right
    cases found : l.buckets.get? client with
    | some b => exact (sound.buckets client b found).2.2
    | none => exact Nat.le_refl now
  have larger (a b : Rat) : Quantity.larger a b = max a b := (max_def a b).symm
  have enough : Quantity.atLeast (l.level now client + Quantity.slack) (Quantity.ofNat 1) =
      decide (1 ≤ l.level now client + 1 / 1000000000) := rfl
  simp only [acquire, seen, larger]
  rw [show l.tokensAt now ((l.buckets.get? client).getD ⟨l.burst, now⟩) = l.level now client from rfl, enough]
  unfold answer left
  by_cases taken : 1 ≤ l.level now client + 1 / 1000000000
  · simp only [taken, decide_true, if_true]
    rfl
  · simp only [taken, decide_false, Bool.false_eq_true, if_false]
    rfl

theorem level_acquire_self (client : String) :
    (l.acquire now client).2.level now client = left (l.level now client) := by
  rw [acquire_eq sound, level_some (Table.get?_insert_self ..)]
  apply tokensAt_now
  exact le_trans (left_le (level_nonneg sound client)) (level_le_burst l now client)

theorem level_acquire_other (away : other ≠ client) (reading : Nat) :
    (l.acquire now client).2.level reading other = l.level reading other := by
  rw [acquire_eq sound]
  unfold level
  rw [Table.get?_insert_ne _ _ away]
  rfl

theorem Sound.acquire (client : String) : (l.acquire now client).2.Sound now := by
  rw [acquire_eq sound]
  refine ⟨sound.rate, sound.burst, ?_⟩
  intro other b found
  rw [Table.get?_insert] at found
  split at found
  · cases found
    have nonneg := level_nonneg sound client
    exact ⟨left_nonneg nonneg, le_trans (left_le nonneg) (level_le_burst l now client), Nat.le_refl now⟩
  · exact sound.buckets other b found

theorem level_evict (le : now ≤ reading) (idle : Nat) (client : String) :
    (l.evictIdle now idle).2.level reading client = l.level reading client := by
  have kept := Table.get?_filter l.buckets
    (fun _ b => !(Quantity.atLeast (l.tokensAt now b) l.burst && idle ≤ now - b.seen)) client
  change (l.evictIdle now idle).2.buckets.get? client = _ at kept
  cases found : l.buckets.get? client with
  | none =>
    rw [found] at kept
    rw [level_none kept, level_none found]
    rfl
  | some b =>
    rw [found] at kept
    by_cases evicted : Quantity.atLeast (l.tokensAt now b) l.burst && decide (idle ≤ now - b.seen)
    · simp only [Option.filter, evicted, Bool.not_true, Bool.false_eq_true, if_false] at kept
      have full : l.burst ≤ l.level now client := by
        rw [level_some found]
        exact of_decide_eq_true (Bool.and_eq_true_iff.1 evicted).1
      have positive := sound.rate
      have gain : 0 ≤ ((reading - now : Nat) : Rat) * l.rate / 1000 := by positivity
      rw [level_none kept, level_later sound le]
      apply Eq.symm
      apply min_eq_right
      change l.burst ≤ _
      linarith
    · simp only [Option.filter, evicted, Bool.not_false, if_true] at kept
      rw [level_some kept, level_some found]
      rfl

theorem Sound.evict (idle : Nat) : (l.evictIdle now idle).2.Sound now := by
  refine ⟨sound.rate, sound.burst, ?_⟩
  intro client b found
  have kept := Table.get?_filter l.buckets
    (fun _ b => !(Quantity.atLeast (l.tokensAt now b) l.burst && idle ≤ now - b.seen)) client
  change (l.evictIdle now idle).2.buckets.get? client = _ at kept
  rw [kept, Option.filter_eq_some_iff] at found
  exact sound.buckets client b found.1

end

end Limiter

end Turnstile
