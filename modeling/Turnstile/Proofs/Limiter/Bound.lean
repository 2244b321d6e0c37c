import Turnstile.Proofs.Limiter.Tokens
-- The amortised argument: what a client has taken and what it still holds add up to no more than what it held at first and the
-- gain since then.
namespace Turnstile.Limiter

inductive Call where
  | acquire (client : String)
  | allow (client : String)
  | available (client : String)
  | evict (idle : Nat)

inductive Answer (ν : Type) where
  | decided (decision : Decision)
  | verdict (allowed : Bool)
  | holding (tokens : Option ν)
  | evicted (n : Nat)

def Call.isBy (client : String) : Call → Bool
  | .acquire asking | .allow asking => asking == client
  | .available _ | .evict _ => false

def Call.isEviction : Call → Bool
  | .evict _ => true
  | _ => false

def Answer.isAllowed {ν : Type} : Answer ν → Bool
  | .decided decision => decision.isAllowed
  | .verdict allowed => allowed
  | .holding _ | .evicted _ => false

section
variable {ν : Type} [Quantity ν]

def serve (l : Limiter ν) (now : Nat) : Call → Answer ν × Limiter ν
  | .acquire client => ((l.acquire now client).map .decided id)
  | .allow client => ((l.acquire now client).map (.verdict ·.isAllowed) id)
  | .available client => (.holding (l.available now client), l)
  | .evict idle => ((l.evictIdle now idle).map .evicted id)

def after (l : Limiter ν) : List (Nat × Call) → Limiter ν
  | [] => l
  | (now, call) :: rest => (l.serve now call).2.after rest

def takings (client : String) (l : Limiter ν) : List (Nat × Call) → List Nat
  | [] => []
  | (now, call) :: rest =>
    let (answer, next) := l.serve now call
    if call.isBy client && answer.isAllowed then now :: takings client next rest else takings client next rest

end

variable {l other : Limiter Rat} {client : String} {now reading : Nat} {call : Call} {calls : List (Nat × Call)}

theorem takings_cons (client : String) (l : Limiter Rat) (now : Nat) (call : Call) (rest : List (Nat × Call)) :
    l.takings client ((now, call) :: rest) =
      (if call.isBy client && (l.serve now call).1.isAllowed then [now] else []) ++
        (l.serve now call).2.takings client rest := by
  simp only [takings]
  split <;> rfl

theorem Sound.serve (sound : l.Sound now) (call : Call) : (l.serve now call).2.Sound now := by
  cases call with
  | acquire client => exact sound.acquire client
  | allow client => exact sound.acquire client
  | available client => exact sound
  | evict idle => exact sound.evict idle

theorem serve_limits (l : Limiter Rat) (now : Nat) (call : Call) :
    (l.serve now call).2.rate = l.rate ∧ (l.serve now call).2.burst = l.burst := by
  have acquired (client : String) : (l.acquire now client).2.rate = l.rate ∧ (l.acquire now client).2.burst = l.burst := by
    simp only [acquire]
    split <;> exact ⟨rfl, rfl⟩
  cases call with
  | acquire client => exact acquired client
  | allow client => exact acquired client
  | available client => exact ⟨rfl, rfl⟩
  | evict idle => exact ⟨rfl, rfl⟩

def Ordered (now : Nat) (calls : List (Nat × Call)) : Prop := (now :: calls.map Prod.fst).Pairwise (· ≤ ·)

theorem Ordered.head {rest : List (Nat × Call)} (onward : Ordered now ((reading, call) :: rest)) : now ≤ reading :=
  (List.pairwise_cons.1 onward).1 reading (by simp)

theorem Ordered.tail {rest : List (Nat × Call)} (onward : Ordered now ((reading, call) :: rest)) : Ordered reading rest :=
  (List.pairwise_cons.1 onward).2

theorem Ordered.here {rest : List (Nat × Call)} (onward : Ordered now ((reading, call) :: rest)) :
    Ordered reading ((reading, call) :: rest) :=
  List.pairwise_cons.2 ⟨fun _ within => (List.mem_cons.1 within).elim (fun same => same ▸ Nat.le_refl _)
    ((List.pairwise_cons.1 onward.tail).1 _), onward.tail⟩

theorem takings_ordered (client : String) (onward : Ordered now calls) : ∀ taken ∈ l.takings client calls, now ≤ taken := by
  induction calls generalizing l now with
  | nil => simp [takings]
  | cons first rest ih =>
    obtain ⟨reading, call⟩ := first
    intro taken within
    rw [takings_cons, List.mem_append] at within
    rcases within with here | later
    · split at here
      · rw [List.mem_singleton.1 here]
        exact onward.head
      · simp at here
    · exact Nat.le_trans onward.head (ih onward.tail taken later)

theorem sound_after (sound : l.Sound now) (onward : Ordered now calls) (le : ∀ call ∈ calls, call.1 ≤ reading)
    (start : now ≤ reading) : (l.after calls).Sound reading := by
  induction calls generalizing l now with
  | nil => exact sound.later start
  | cons first rest ih =>
    obtain ⟨next, call⟩ := first
    apply ih ((sound.later onward.head).serve call) onward.tail
    · intro call within
      exact le call (List.mem_cons_of_mem _ within)
    · exact le (next, call) List.mem_cons_self

section
variable (sound : l.Sound now)
include sound

theorem level_serve_other (away : call.isBy client = false) (le : now ≤ reading) :
    (l.serve now call).2.level reading client = l.level reading client := by
  cases call with
  | acquire asking => exact level_acquire_other sound (Ne.symm (by simpa [Call.isBy] using away)) reading
  | allow asking => exact level_acquire_other sound (Ne.symm (by simpa [Call.isBy] using away)) reading
  | available asking => rfl
  | evict idle => exact level_evict sound le idle client

theorem serve_asking (asking : call.isBy client = true) :
    (l.serve now call).1.isAllowed = (answer l.rate (l.level now client)).isAllowed ∧
      (l.serve now call).2.level now client = left (l.level now client) := by
  cases call with
  | acquire named =>
    have same : named = client := by simpa [Call.isBy] using asking
    subst same
    refine ⟨?_, level_acquire_self sound named⟩
    change (l.acquire now named).1.isAllowed = _
    rw [acquire_eq sound]
  | allow named =>
    have same : named = client := by simpa [Call.isBy] using asking
    subst same
    refine ⟨?_, level_acquire_self sound named⟩
    change (l.acquire now named).1.isAllowed = _
    rw [acquire_eq sound]
  | available named => cases asking
  | evict idle => cases asking

-- A call takes from the level what it gives away, up to the billionth part that a token may be short of.
theorem level_serve_le (client : String) (call : Call) :
    (l.serve now call).2.level now client +
        (if call.isBy client && (l.serve now call).1.isAllowed then 1 - 1 / 1000000000 else 0) ≤ l.level now client := by
  cases asking : call.isBy client with
  | false =>
    rw [level_serve_other sound asking (Nat.le_refl now)]
    simp
  | true =>
    obtain ⟨verdict, remains⟩ := serve_asking sound asking
    rw [verdict, remains]
    by_cases enough : 1 ≤ l.level now client + 1 / 1000000000
    · have charged := left_le_sub enough
      rw [Bool.true_and, if_pos ((answer_isAllowed _ _).2 enough)]
      linarith
    · have short : ¬(answer l.rate (l.level now client)).isAllowed = true := by
        rw [answer_isAllowed]
        exact enough
      have := left_le (level_nonneg sound client)
      rw [Bool.true_and, if_neg short]
      linarith

theorem level_serve_le_later (client : String) (call : Call) (le : now ≤ reading) :
    (l.serve now call).2.level reading client ≤ l.level reading client := by
  have charged := level_serve_le sound client call
  have free : (0 : Rat) ≤ if call.isBy client && (l.serve now call).1.isAllowed then 1 - 1 / 1000000000 else 0 := by
    split <;> norm_num
  rw [level_later (sound.serve call) le, level_later sound le, (serve_limits l now call).1, (serve_limits l now call).2]
  apply min_le_min_right
  linarith

end

def takenIn (s t : Nat) (client : String) (l : Limiter Rat) (calls : List (Nat × Call)) : Nat :=
  (l.takings client calls).countP fun x => s ≤ x && x ≤ t

theorem takenIn_late {s t : Nat} (onward : Ordered now calls) (late : t < now) : l.takenIn s t client calls = 0 := by
  rw [takenIn, List.countP_eq_zero]
  intro taken within
  have := takings_ordered client onward taken within
  simp only [Bool.and_eq_true, decide_eq_true_eq]
  omega

theorem takenIn_cons {s t : Nat} (rest : List (Nat × Call)) (within : now ≤ t) :
    l.takenIn s t client ((now, call) :: rest) =
      (if s ≤ now ∧ call.isBy client && (l.serve now call).1.isAllowed then 1 else 0) +
        (l.serve now call).2.takenIn s t client rest := by
  rw [takenIn, takings_cons, List.countP_append]
  congr 1
  by_cases allowed : (call.isBy client && (l.serve now call).1.isAllowed) = true
  · simp [allowed, within, List.countP_cons]
  · simp [allowed]

theorem reserve_nonneg {s t : Nat} (sound : l.Sound now) (le : max s now ≤ t) (client : String) :
    0 ≤ l.level (max s now) client + l.rate * (t - (max s now : Nat)) / 1000 := by
  have rate := sound.rate
  have held := level_nonneg (sound.later (Nat.le_max_right s now)) client
  have span : (0 : Rat) ≤ t - (max s now : Nat) := by
    rw [sub_nonneg]
    exact_mod_cast le
  positivity

-- What is taken in the span is no more than what was held at its beginning, or is held now, and the gain from then on.
theorem takenIn_bound {s t : Nat} (sound : l.Sound now) (onward : Ordered now calls) (le : max s now ≤ t) (client : String) :
    (l.takenIn s t client calls : Rat) * (1 - 1 / 1000000000) ≤
      l.level (max s now) client + l.rate * (t - (max s now : Nat)) / 1000 := by
  induction calls generalizing l now with
  | nil => simpa [takenIn, takings] using reserve_nonneg sound le client
  | cons first rest ih =>
    obtain ⟨reading, call⟩ := first
    have forward := onward.head
    have passed := sound.later forward
    by_cases within : reading ≤ t
    · have rest_bound := ih (passed.serve call) onward.tail (by omega)
      have gained := level_later_le (sound.later (Nat.le_max_right s now)) (max_le_max_left s forward) client
      rw [(serve_limits l reading call).1] at rest_bound
      rw [takenIn_cons rest within, Nat.cast_add, add_mul]
      by_cases early : reading < s
      · have kept := level_serve_le_later passed client call (Nat.le_max_right s reading)
        rw [if_neg (by omega), Nat.cast_zero, zero_mul, zero_add]
        linarith
      · have reached : max s reading = reading := by omega
        have charged := level_serve_le passed client call
        rw [reached] at rest_bound gained
        have counted : s ≤ reading := Nat.le_of_not_lt early
        simp only [counted, true_and] at charged ⊢
        split at charged
        · rename_i allowed
          rw [if_pos allowed, Nat.cast_one, one_mul]
          linarith
        · rename_i refused
          rw [if_neg refused, Nat.cast_zero, zero_mul, zero_add]
          linarith
    · rw [takenIn_late onward.here (Nat.lt_of_not_le within), Nat.cast_zero, zero_mul]
      exact reserve_nonneg sound le client

theorem takings_whole {held : Nat} (sound : l.Sound now) (level : l.level now client = (held : Rat)) (asked : List Call) :
    (l.takings client (asked.map (now, ·))).length = min (asked.countP (·.isBy client)) held := by
  induction asked generalizing l held with
  | nil => simp [takings]
  | cons call rest ih =>
    have next := sound.serve call
    rw [List.map_cons, takings_cons, List.length_append, List.countP_cons]
    cases asking : call.isBy client with
    | false =>
      have kept := level_serve_other sound asking (Nat.le_refl now)
      rw [ih next (kept.trans level)]
      simp
    | true =>
      obtain ⟨verdict, remains⟩ := serve_asking sound asking
      rw [level] at verdict remains
      cases held with
      | zero =>
        have refused : (answer l.rate ((0 : Nat) : Rat)).isAllowed = false := by
          rw [Bool.eq_false_iff, Ne, answer_isAllowed]
          norm_num
        have empty : left ((0 : Nat) : Rat) = ((0 : Nat) : Rat) := by
          unfold left
          norm_num
        rw [ih next (remains.trans empty), verdict, refused]
        simp
      | succ held =>
        obtain ⟨fewer, enough⟩ := left_whole held
        have allowed : (answer l.rate ((held + 1 : Nat) : Rat)).isAllowed = true := by
          rw [answer_isAllowed]
          exact enough
        rw [ih next (remains.trans fewer), verdict]
        simp only [allowed, Bool.and_self, if_true, List.length_singleton]
        omega

-- Two limiters that nobody who asks can tell apart, now or later.
structure SameLevels (now : Nat) (l other : Limiter Rat) : Prop where
  sound : l.Sound now
  twin : other.Sound now
  rate : l.rate = other.rate
  burst : l.burst = other.burst
  level : ∀ client, l.level now client = other.level now client

theorem SameLevels.refl (sound : l.Sound now) : SameLevels now l l := ⟨sound, sound, rfl, rfl, fun _ => rfl⟩

theorem SameLevels.symm (agree : SameLevels now l other) : SameLevels now other l :=
  ⟨agree.twin, agree.sound, agree.rate.symm, agree.burst.symm, fun client => (agree.level client).symm⟩

theorem SameLevels.later (agree : SameLevels now l other) (le : now ≤ reading) : SameLevels reading l other := by
  refine ⟨agree.sound.later le, agree.twin.later le, agree.rate, agree.burst, ?_⟩
  intro client
  rw [level_later agree.sound le, level_later agree.twin le, agree.level client, agree.rate, agree.burst]

theorem SameLevels.evict (agree : SameLevels now l other) (idle : Nat) : SameLevels now (l.evictIdle now idle).2 other := by
  refine ⟨agree.sound.evict idle, agree.twin, agree.rate, agree.burst, ?_⟩
  intro client
  rw [level_evict agree.sound (Nat.le_refl now) idle client, agree.level client]

theorem SameLevels.acquire (agree : SameLevels now l other) (client : String) :
    (l.acquire now client).1 = (other.acquire now client).1 ∧
      SameLevels now (l.acquire now client).2 (other.acquire now client).2 := by
  have level := agree.level client
  constructor
  · rw [acquire_eq agree.sound, acquire_eq agree.twin, level, agree.rate]
  · refine ⟨agree.sound.acquire client, agree.twin.acquire client, ?_, ?_, ?_⟩
    · rw [acquire_eq agree.sound, acquire_eq agree.twin]
      exact agree.rate
    · rw [acquire_eq agree.sound, acquire_eq agree.twin]
      exact agree.burst
    · intro asking
      by_cases same : asking = client
      · rw [same, level_acquire_self agree.sound, level_acquire_self agree.twin, level]
      · rw [level_acquire_other agree.sound same, level_acquire_other agree.twin same, agree.level asking]

theorem SameLevels.serve (agree : SameLevels now l other) (kept : call.isEviction = false) (client : String) :
    (call.isBy client && (l.serve now call).1.isAllowed) = (call.isBy client && (other.serve now call).1.isAllowed) ∧
      SameLevels now (l.serve now call).2 (other.serve now call).2 := by
  cases call with
  | acquire asking =>
    obtain ⟨answers, next⟩ := agree.acquire asking
    exact ⟨congrArg (fun decision => (Call.acquire asking).isBy client && decision.isAllowed) answers, next⟩
  | allow asking =>
    obtain ⟨answers, next⟩ := agree.acquire asking
    exact ⟨congrArg (fun decision => (Call.allow asking).isBy client && decision.isAllowed) answers, next⟩
  | available asking => exact ⟨rfl, agree⟩
  | evict idle => cases kept

-- Who is let through does not depend on which idle buckets are forgotten, nor when.
theorem takings_evictions (agree : SameLevels now l other) (onward : Ordered now calls) :
    other.takings client (calls.filter (!·.2.isEviction)) = l.takings client calls := by
  induction calls generalizing l other now with
  | nil => rfl
  | cons first rest ih =>
    obtain ⟨reading, call⟩ := first
    have here := agree.later onward.head
    rw [takings_cons]
    cases eviction : call.isEviction with
    | true =>
      cases call with
      | evict idle =>
        rw [List.filter_cons_of_neg (by simp [eviction])]
        exact ih (here.evict idle) onward.tail
      | acquire | allow | available => cases eviction
    | false =>
      obtain ⟨answers, next⟩ := here.serve eviction client
      rw [List.filter_cons_of_pos (by simp [eviction]), takings_cons, ih next onward.tail, answers]

theorem getD_available (l : Limiter Rat) (now : Nat) (client : String) :
    (l.available now client).getD l.burst = l.level now client := by
  cases found : l.buckets.get? client with
  | some b => simp [available, found, level_some found]
  | none => simp [available, found, level_none found]

theorem after_limits (l : Limiter Rat) (calls : List (Nat × Call)) :
    (l.after calls).rate = l.rate ∧ (l.after calls).burst = l.burst := by
  induction calls generalizing l with
  | nil => exact ⟨rfl, rfl⟩
  | cons first rest ih =>
    obtain ⟨rate, burst⟩ := serve_limits l first.1 first.2
    obtain ⟨rate', burst'⟩ := ih (l.serve first.1 first.2).2
    exact ⟨rate'.trans rate, burst'.trans burst⟩

-- Over any span a client is let through no more often than a full bucket and the gain of the span allow, but for the
-- billionth part that every token may be short of. Evictions make no difference; buckets never leave their limits; and whoever
-- finds a full bucket is let through as often as it asks, but no more than `burst` times at one reading.
theorem admission_bound {rate : Rat} {burst : Nat} (positive : 0 < rate) (filled : 1 ≤ burst)
    (ordered : (calls.map Prod.fst).Pairwise (· ≤ ·)) (client : String) :
    (∀ s t : Nat, s ≤ t → (((start rate burst).takings client calls).countP (fun x => s ≤ x && x ≤ t) : Rat) *
        (1 - 1 / 10 ^ 9) ≤ burst + rate * (t - s) / 1000) ∧
    (start rate burst).takings client (calls.filter (!·.2.isEviction)) = (start rate burst).takings client calls ∧
    (∀ b, ((start rate burst).after calls).buckets.get? client = some b → 0 ≤ b.tokens ∧ b.tokens ≤ burst) ∧
    ∀ now, (∀ call ∈ calls, call.1 ≤ now) →
      (∀ held, ((start rate burst).after calls).available now client = some held → 0 ≤ held ∧ held ≤ burst) ∧
      ((((start rate burst).after calls).available now client).getD burst = burst → ∀ asked : List Call,
        (((start rate burst).after calls).takings client (asked.map (now, ·))).length =
          min (asked.countP (·.isBy client)) burst) := by
  have sound := sound_start positive filled 0
  have onward : Ordered 0 calls := List.pairwise_cons.2 ⟨fun _ _ => Nat.zero_le _, ordered⟩
  have limits : ((start rate burst).after calls).burst = (burst : Rat) := (after_limits _ calls).2
  refine ⟨?_, takings_evictions (.refl sound) onward, ?_, ?_⟩
  · intro s t le
    have full : (start rate burst).level (max s 0) client ≤ (burst : Rat) := level_le_burst ..
    have bound := takenIn_bound (s := s) (t := t) sound onward (by omega) client
    rw [Nat.max_zero] at full bound
    change (((start rate burst).takenIn s t client calls : Nat) : Rat) * _ ≤ _
    change _ ≤ _ + rate * (t - s) / 1000 at bound
    norm_num at bound ⊢
    linarith
  · intro b found
    obtain ⟨reading, latest⟩ : ∃ reading, ∀ call ∈ calls, call.1 ≤ reading :=
      ⟨(calls.map Prod.fst).sum, fun call within => List.le_sum_of_mem (List.mem_map_of_mem within)⟩
    have held := (sound_after sound onward latest (Nat.zero_le reading)).buckets client b found
    rw [limits] at held
    exact ⟨held.1, held.2.1⟩
  · intro now latest
    have reached := sound_after sound onward latest (Nat.zero_le now)
    have level := getD_available ((start rate burst).after calls) now client
    have nonneg := level_nonneg reached client
    have bounded := level_le_burst ((start rate burst).after calls) now client
    rw [limits] at level bounded
    constructor
    · intro held found
      rw [found, Option.getD_some] at level
      rw [level]
      exact ⟨nonneg, bounded⟩
    · intro full asked
      exact takings_whole reached (level.symm.trans full) asked

def spree : List (Nat × Call) := [(0, .acquire "a"), (0, .allow "a"), (0, .acquire "b"), (0, .allow "a"), (900, .evict 0),
  (1000, .acquire "a"), (1000, .allow "a")]

theorem spree_reaches_bound : (spree.map Prod.fst).Pairwise (· ≤ ·) ∧
    (start (1 : Rat) 2).takings "a" spree = [0, 0, 1000] ∧
    ((3 : Nat) : Rat) * (1 - 1 / 10 ^ 9) ≤ (2 : Nat) + 1 * ((1000 : Nat) - (0 : Nat)) / 1000 := by
  have ordered : (spree.map Prod.fst).Pairwise (· ≤ ·) := by decide
  have taken : (start (1 : Rat) 2).takings "a" spree = [0, 0, 1000] := by decide +kernel
  have bound := (admission_bound (show (0 : Rat) < 1 by norm_num) (show 1 ≤ 2 by decide) ordered "a").1 0 1000 (by decide)
  rw [taken] at bound
  exact ⟨ordered, taken, bound⟩

end Turnstile.Limiter
