import Turnstile.Proofs.Limiter.Eviction
namespace Turnstile.Limiter

inductive Turn where
  | ask (call : Call)
  | limits (rate : Rat) (burst : Nat)

def Turn.isBy (client : String) : Turn → Bool
  | .ask call => call.isBy client
  | .limits _ _ => false

def turned (l : Limiter Rat) (now : Nat) : Turn → Limiter Rat
  | .ask call => (l.serve now call).2
  | .limits rate burst => l.setLimits rate burst

def through (l : Limiter Rat) (turns : List (Nat × Turn)) : Limiter Rat :=
  turns.foldl (fun l turn => l.turned turn.1 turn.2) l

-- The tokens of a bucket if all the time since it was looked at is worth `rate`, before they are cut to its size.
def earned (b : Bucket Rat) (now : Nat) (rate : Rat) : Rat := b.tokens + ((now - b.seen : Nat) : Rat) * rate / 1000

variable {l : Limiter Rat} {client named : String} {now reading burst : Nat} {rate : Rat} {call : Call} {turn : Turn}
  {turns : List (Nat × Turn)} {b : Bucket Rat}

theorem through_append (l : Limiter Rat) (first rest : List (Nat × Turn)) :
    l.through (first ++ rest) = (l.through first).through rest := List.foldl_append

theorem available_some (found : l.buckets.get? client = some b) (now : Nat) :
    l.available now client = some (min (earned b now l.rate) l.burst) := by
  rw [available, found, Option.map_some, tokensAt_eq]
  rfl

theorem available_settled (found : l.buckets.get? client = some b) (few : b.tokens ≤ l.burst) (seen : now ≤ b.seen) :
    l.available now client = some b.tokens := by
  have none : now - b.seen = 0 := Nat.sub_eq_zero_of_le seen
  rw [available_some found, earned, none]
  simp [few]

theorem turned_burst (positive : 0 ≤ l.burst) (now : Nat) (turn : Turn) : 0 ≤ (l.turned now turn).burst := by
  cases turn with
  | ask call =>
    change 0 ≤ (l.serve now call).2.burst
    rw [(serve_limits l now call).2]
    exact positive
  | limits rate burst => exact Nat.cast_nonneg burst

theorem through_burst (positive : 0 ≤ l.burst) (turns : List (Nat × Turn)) : 0 ≤ (l.through turns).burst := by
  induction turns generalizing l with
  | nil => exact positive
  | cons first rest ih => exact ih (turned_burst positive first.1 first.2)

theorem turned_other (away : turn.isBy client = false) (found : (l.turned now turn).buckets.get? client = some b) :
    l.buckets.get? client = some b := by
  have acquired (other : String) (apart : client ≠ other)
      (found : (l.acquire now other).2.buckets.get? client = some b) : l.buckets.get? client = some b := by
    simp only [acquire] at found
    split at found <;> exact (Table.get?_insert_ne _ _ apart).symm.trans found
  cases turn with
  | limits rate burst => exact found
  | ask call =>
    cases call with
    | acquire other => exact acquired other (Ne.symm (by simpa [Turn.isBy, Call.isBy] using away)) found
    | allow other => exact acquired other (Ne.symm (by simpa [Turn.isBy, Call.isBy] using away)) found
    | available other => exact found
    | evict idle =>
      change ((l.buckets.filter _).get? client) = _ at found
      rw [Table.get?_filter] at found
      exact (Option.filter_eq_some_iff.1 found).1

theorem acquire_settles (positive : 0 ≤ l.burst) (now : Nat) (client : String) :
    ∃ b, (l.acquire now client).2.buckets.get? client = some b ∧ b.tokens ≤ l.burst ∧
      b.seen = max ((l.buckets.get? client).getD ⟨l.burst, now⟩).seen now := by
  have within := l.tokensAt_eq now ((l.buckets.get? client).getD ⟨l.burst, now⟩)
  have larger (a b : Rat) : Quantity.larger a b = max a b := (max_def a b).symm
  simp only [acquire]
  generalize l.tokensAt now ((l.buckets.get? client).getD ⟨l.burst, now⟩) = held at within ⊢
  have few : held ≤ l.burst := within ▸ min_le_right _ _
  split
  · refine ⟨_, Table.get?_insert_self .., ?_, rfl⟩
    rw [larger]
    apply max_le _ positive
    change held - 1 ≤ _
    linarith
  · exact ⟨_, Table.get?_insert_self .., few, rfl⟩

theorem turned_visit (positive : 0 ≤ l.burst) (now : Nat) (asking : call.isBy client = true) :
    ∃ b, (l.turned now (.ask call)).buckets.get? client = some b ∧
      (l.turned now (.ask call)).available now client = some b.tokens ∧
      b.seen = max ((l.buckets.get? client).getD ⟨l.burst, now⟩).seen now := by
  have visited : ∃ b, (l.turned now (.ask call)).buckets.get? client = some b ∧ b.tokens ≤ l.burst ∧
      b.seen = max ((l.buckets.get? client).getD ⟨l.burst, now⟩).seen now := by
    cases call with
    | acquire named =>
      have same : named = client := by simpa [Call.isBy] using asking
      exact same ▸ acquire_settles positive now named
    | allow named =>
      have same : named = client := by simpa [Call.isBy] using asking
      exact same ▸ acquire_settles positive now named
    | available named => cases asking
    | evict idle => cases asking
  obtain ⟨b, found, few, seen⟩ := visited
  rw [← (serve_limits l now call).2] at few
  exact ⟨b, found, available_settled found few (seen ▸ Nat.le_max_right ..), seen⟩

-- A bucket is what the last visit of its client made of it.
theorem last_visit (rate : Rat) (burst : Nat) (turns : List (Nat × Turn))
    (found : ((start rate burst).through turns).buckets.get? client = some b) :
    ∃ earlier reading call later, turns = earlier ++ (reading, .ask call) :: later ∧ call.isBy client = true ∧
      (∀ turn ∈ later, turn.2.isBy client = false) ∧
      ((start rate burst).through (earlier ++ [(reading, .ask call)])).available reading client = some b.tokens ∧
      reading ≤ b.seen ∧ ((turns.map Prod.fst).Pairwise (· ≤ ·) → b.seen = reading) := by
  induction turns using List.reverseRecOn generalizing b with
  | nil => cases found
  | append_singleton before last ih =>
    obtain ⟨now, turn⟩ := last
    have positive := through_burst (l := start rate burst) (Nat.cast_nonneg burst) before
    have step : (start rate burst).through (before ++ [(now, turn)]) = ((start rate burst).through before).turned now turn := through_append ..
    rw [step] at found
    cases asking : turn.isBy client with
    | false =>
      obtain ⟨earlier, reading, call, later, split, visits, away, settled, le, seen⟩ := ih (turned_other asking found)
      refine ⟨earlier, reading, call, later ++ [(now, turn)], by simp [split], visits, ?_, settled, le, ?_⟩
      · intro turn within
        rcases List.mem_append.1 within with old | new
        · exact away turn old
        · rw [List.mem_singleton.1 new]
          exact asking
      · intro ordered
        rw [List.map_append] at ordered
        exact seen (List.pairwise_append.1 ordered).1
    | true =>
      cases turn with
      | limits rate burst => cases asking
      | ask call =>
        obtain ⟨b', there, settled, seen⟩ := turned_visit positive now asking
        obtain rfl : b' = b := Option.some_inj.1 (there.symm.trans found)
        refine ⟨before, now, call, [], rfl, asking, by simp, step ▸ settled, seen ▸ Nat.le_max_right .., ?_⟩
        intro ordered
        rw [seen]
        apply max_eq_right
        cases known : ((start rate burst).through before).buckets.get? client with
        | none => exact Nat.le_refl now
        | some old =>
          obtain ⟨earlier, reading, call, later, split, -, -, -, -, visited⟩ := ih known
          rw [List.map_append, List.pairwise_append] at ordered
          rw [Option.getD_some, visited ordered.1]
          apply ordered.2.2 reading ?_ now (by simp)
          simp [split]

theorem min_limits_iff (earned held cap : Rat) :
    some (min earned cap) = (some held).map (min · cap) ↔ (cap ≤ earned ∧ cap ≤ held) ∨ earned = held := by
  rw [Option.map_some, Option.some_inj]
  constructor
  · intro same
    rcases le_total cap held with reached | short
    · rw [min_eq_right reached] at same
      exact .inl ⟨min_eq_right_iff.1 same, reached⟩
    · rw [min_eq_left short] at same
      rcases le_total cap earned with full | below
      · rw [min_eq_right full] at same
        exact .inl ⟨full, same.le⟩
      · exact .inr ((min_eq_left below).symm.trans same)
  · rintro (⟨full, reached⟩ | same)
    · rw [min_eq_right full, min_eq_right reached]
    · rw [same]

-- The time since a client last asked is counted at the rate of the new limits, to whatever limits there were meanwhile. So a
-- change only cuts what the client holds if both that and what it earns now reach the new size, or if they are the same.
theorem limits_reach_back {first : Rat} {size : Nat} (turns : List (Nat × Turn))
    (known : ((start first size).through turns).knows client = true) (now : Nat) (rate : Rat) (burst : Nat) :
    let run := (start first size).through turns
    ∃ earlier reading call later b, turns = earlier ++ (reading, .ask call) :: later ∧ call.isBy client = true ∧
      (∀ turn ∈ later, turn.2.isBy client = false) ∧
      ((start first size).through (earlier ++ [(reading, .ask call)])).available reading client = some b.tokens ∧
      reading ≤ b.seen ∧ ((turns.map Prod.fst).Pairwise (· ≤ ·) → b.seen = reading) ∧
      run.available now client = some (min (earned b now run.rate) run.burst) ∧
      (run.setLimits rate burst).available now client = some (min (earned b now rate) burst) ∧
      ((run.setLimits rate burst).available now client = (run.available now client).map (min · (burst : Rat)) ↔
        ((burst : Rat) ≤ earned b now rate ∧ (burst : Rat) ≤ min (earned b now run.rate) run.burst) ∨
          earned b now rate = min (earned b now run.rate) run.burst) := by
  intro run
  obtain ⟨b, found⟩ := Option.isSome_iff_exists.1 known
  obtain ⟨earlier, reading, call, later, split, visits, away, settled, le, seen⟩ := last_visit first size turns found
  have before : run.available now client = some (min (earned b now run.rate) run.burst) := available_some found now
  have changed : (run.setLimits rate burst).available now client = some (min (earned b now rate) burst) :=
    available_some (l := run.setLimits rate burst) found now
  refine ⟨earlier, reading, call, later, b, split, visits, away, settled, le, seen, before, changed, ?_⟩
  rw [before, changed]
  exact min_limits_iff ..

def drainedTwice : List (Nat × Turn) := [(0, .ask (.acquire "a")), (0, .ask (.acquire "a"))]

-- At twice the rate that second is worth two tokens, at once; at half the rate half of the earned token is gone.
theorem pending_time_revalued :
    ((start 1 2).through drainedTwice).available 1000 "a" = some 1 ∧
    (((start 1 2).through drainedTwice).setLimits 2 2).available 1000 "a" ≠
      (((start 1 2).through drainedTwice).available 1000 "a").map (min · ((2 : Nat) : Rat)) ∧
    (((start 1 2).through drainedTwice).setLimits 2 2).available 1000 "a" = some 2 ∧
    (((start 1 2).through drainedTwice).setLimits (1 / 2) 2).available 1000 "a" = some (1 / 2) := by
  decide +kernel

-- Nothing is pending for who has just asked: the new size is all that such a client notices.
theorem settled_only_cut : ((start 1 10).through [(0, .ask (.acquire "a"))]).knows "a" = true ∧
    (((start 1 10).through [(0, .ask (.acquire "a"))]).setLimits 3 2).available 0 "a" =
      (((start 1 10).through [(0, .ask (.acquire "a"))]).available 0 "a").map (min · ((2 : Nat) : Rat)) := by
  have known : ((start 1 10).through [(0, .ask (.acquire "a"))]).knows "a" = true := by decide +kernel
  obtain ⟨earlier, reading, call, later, b, -, -, -, -, -, -, before, changed, cut⟩ :=
    limits_reach_back [(0, .ask (.acquire "a"))] known 0 3 2
  have still (rate : Rat) : earned b 0 rate = b.tokens := by simp [earned]
  refine ⟨known, cut.2 (.inr ?_)⟩
  have held : ((start 1 10).through [(0, .ask (.acquire "a"))]).available 0 "a" = some 9 := by decide +kernel
  rw [held, Option.some_inj] at before
  have size : ((start 1 10).through [(0, .ask (.acquire "a"))]).burst = 10 := by decide +kernel
  simp only [still, size] at before ⊢
  rw [← before]
  rw [eq_comm, min_eq_iff] at before
  rcases before with ⟨nine, -⟩ | ⟨ten, -⟩
  · exact nine
  · norm_num at ten

end Turnstile.Limiter
