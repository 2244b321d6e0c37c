import Turnstile.Proofs.Limiter.Bound
namespace Turnstile.Limiter

section
variable {ν : Type} [Quantity ν]

def knows (l : Limiter ν) (client : String) : Bool := (l.buckets.get? client).isSome

def forgot (client : String) (l : Limiter ν) : List (Nat × Call) → Bool
  | [] => false
  | (now, call) :: rest =>
    let next := (l.serve now call).2
    next.forgot client rest || (l.knows client && !next.knows client && rest.all (!·.2.isBy client))

end

variable {l other : Limiter Rat} {client : String} {now reading : Nat} {call : Call} {calls : List (Nat × Call)} {away : Bool}

theorem available_unknown (unknown : l.knows client = false) : l.available now client = none := by
  rw [available, Option.map_eq_none_iff]
  exact Option.isNone_iff_eq_none.1 (Option.isSome_eq_false_iff.1 unknown)

theorem available_known (known : l.knows client = true) : l.available now client = some (l.level now client) := by
  obtain ⟨b, found⟩ := Option.isSome_iff_exists.1 known
  rw [available, level_some found, found]
  rfl

theorem knows_acquire (sound : l.Sound now) (named : String) :
    (l.acquire now named).2.knows client = (named == client || l.knows client) := by
  rw [knows, acquire_eq sound, Table.get?_insert]
  by_cases same : client = named
  · simp [same]
  · simp [same, Ne.symm same, knows]

theorem knows_evict (l : Limiter Rat) (now idle : Nat) (client : String)
    (known : (l.evictIdle now idle).2.knows client = true) : l.knows client = true := by
  have kept := Table.get?_filter l.buckets
    (fun _ b => !(Quantity.atLeast (l.tokensAt now b) l.burst && idle ≤ now - b.seen)) client
  change (l.evictIdle now idle).2.buckets.get? client = _ at kept
  rw [knows, kept] at known
  obtain ⟨b, found⟩ := Option.isSome_iff_exists.1 known
  rw [knows, (Option.filter_eq_some_iff.1 found).1]
  rfl

theorem knows_serve (sound : l.Sound now) (kept : call.isEviction = false) (client : String) :
    (l.serve now call).2.knows client = (call.isBy client || l.knows client) := by
  cases call with
  | acquire named => exact knows_acquire sound named
  | allow named => exact knows_acquire sound named
  | available named => rfl
  | evict idle => cases kept

-- Of two limiters that answer alike, `l` lacks a client's bucket that `other` has exactly while the client is away.
structure Behind (client : String) (away : Bool) (now : Nat) (l other : Limiter Rat) : Prop where
  sameLevels : SameLevels now l other
  known : l.knows client = (other.knows client && !away)
  left : away = true → other.knows client = true

theorem Behind.refl (sound : l.Sound now) (client : String) : Behind client false now l l :=
  ⟨.refl sound, by simp, nofun⟩

theorem Behind.later (behind : Behind client away now l other) (le : now ≤ reading) : Behind client away reading l other :=
  ⟨behind.sameLevels.later le, behind.known, behind.left⟩

theorem Behind.evict (behind : Behind client away now l other) (eviction : call.isEviction = true) :
    Behind client (away && !call.isBy client || l.knows client && !(l.serve now call).2.knows client) now
      (l.serve now call).2 other := by
  cases call with
  | evict idle =>
    have fewer := knows_evict l now idle client
    obtain ⟨agree, known, left⟩ := behind
    change Behind client (away && true || l.knows client && !(l.evictIdle now idle).2.knows client) now
      (l.evictIdle now idle).2 other
    refine ⟨agree.evict idle, ?_, ?_⟩
    · cases away <;> cases before : l.knows client <;> simp_all
    · cases away <;> cases before : l.knows client <;> simp_all
  | acquire | allow | available => cases eviction

theorem Behind.serve (behind : Behind client away now l other) (kept : call.isEviction = false) :
    Behind client (away && !call.isBy client || l.knows client && !(l.serve now call).2.knows client) now
      (l.serve now call).2 (other.serve now call).2 := by
  obtain ⟨agree, known, left⟩ := behind
  rw [knows_serve agree.sound kept, known]
  refine ⟨(agree.serve kept client).2, ?_, ?_⟩
  · rw [knows_serve agree.sound kept, knows_serve agree.twin kept, known]
    cases call.isBy client <;> cases away <;> cases other.knows client <;> rfl
  · rw [knows_serve agree.twin kept]
    cases call.isBy client <;> cases away <;> cases owned : other.knows client <;> simp_all

theorem behind_after (behind : Behind client away now l other) (onward : Ordered now calls)
    (latest : ∀ call ∈ calls, call.1 ≤ reading) (start : now ≤ reading) :
    Behind client (l.forgot client calls || away && calls.all (!·.2.isBy client)) reading
      (l.after calls) (other.after (calls.filter (!·.2.isEviction))) := by
  induction calls generalizing l other now away with
  | nil => simpa [forgot, after] using behind.later start
  | cons first rest ih =>
    obtain ⟨next, call⟩ := first
    have here := behind.later onward.head
    have soon : next ≤ reading := latest (next, call) List.mem_cons_self
    have later : ∀ call ∈ rest, call.1 ≤ reading := fun call within => latest call (List.mem_cons_of_mem _ within)
    have flag (gone asks stays dropped : Bool) :
        (gone || dropped && stays || away && (!asks && stays)) = (gone || (away && !asks || dropped) && stays) := by
      cases gone <;> cases asks <;> cases stays <;> cases dropped <;> cases away <;> rfl
    rw [forgot, List.all_cons, flag, after]
    cases eviction : call.isEviction with
    | true =>
      rw [List.filter_cons_of_neg (by simp [eviction])]
      exact ih (here.evict eviction) onward.tail later soon
    | false =>
      rw [List.filter_cons_of_pos (by simp [eviction]), after]
      exact ih (here.serve eviction) onward.tail later soon

-- What a client holds is the same as well, unless it was forgotten and has not come back: then it has no bucket in the one
-- and a full one in the other.
theorem Behind.available (behind : Behind client away now l other) :
    if away then l.available now client = none ∧ other.available now client = some other.burst
    else l.available now client = other.available now client := by
  obtain ⟨agree, known, left⟩ := behind
  cases away with
  | true =>
    have unknown : l.knows client = false := by simpa using known
    have full : other.level now client = other.burst := by
      rw [← agree.level client, ← agree.burst]
      exact level_none (Option.isNone_iff_eq_none.1 (Option.isSome_eq_false_iff.1 unknown))
    rw [available_known (left rfl), full]
    exact ⟨available_unknown unknown, rfl⟩
  | false =>
    rw [if_neg Bool.false_ne_true]
    cases owned : other.knows client with
    | true =>
      rw [available_known owned, available_known (by simpa [owned] using known), agree.level client]
    | false =>
      rw [available_unknown owned, available_unknown (by simpa [owned] using known)]

-- Without the evictions of a run, whoever asks next has the same answer, and only who was forgotten and has not come back is
-- told to have no bucket where it would have a full one.
theorem evictions_unnoticed {rate : Rat} {burst : Nat} (positive : 0 < rate) (filled : 1 ≤ burst)
    (ordered : (calls.map Prod.fst).Pairwise (· ≤ ·)) (latest : ∀ call ∈ calls, call.1 ≤ now) (client : String) :
    let run := (start rate burst).after calls
    let plain := (start rate burst).after (calls.filter (!·.2.isEviction))
    (run.serve now (.acquire client)).1 = (plain.serve now (.acquire client)).1 ∧
    (run.serve now (.allow client)).1 = (plain.serve now (.allow client)).1 ∧
    if (start rate burst).forgot client calls then
      (run.serve now (.available client)).1 = .holding none ∧
        (plain.serve now (.available client)).1 = .holding (some (burst : Rat))
    else (run.serve now (.available client)).1 = (plain.serve now (.available client)).1 := by
  intro run plain
  have onward : Ordered 0 calls := List.pairwise_cons.2 ⟨fun _ _ => Nat.zero_le _, ordered⟩
  have behind := behind_after (.refl (sound_start positive filled 0) client) onward latest (Nat.zero_le now)
  rw [Bool.false_and, Bool.or_false] at behind
  have answers : (run.acquire now client).1 = (plain.acquire now client).1 := (behind.sameLevels.acquire client).1
  have held := behind.available
  refine ⟨congrArg Answer.decided answers, ?_, ?_⟩
  · change Answer.verdict (run.acquire now client).1.isAllowed = .verdict (plain.acquire now client).1.isAllowed
    rw [answers]
  split at held
  · rename_i away
    obtain ⟨none, full⟩ := held
    rw [(after_limits _ _).2] at full
    rw [if_pos away]
    exact ⟨congrArg Answer.holding none, congrArg Answer.holding full⟩
  · rename_i back
    rw [if_neg back]
    exact congrArg Answer.holding held

def lull : List (Nat × Call) := [(0, .acquire "a"), (1500, .acquire "b"), (2000, .evict 2000)]

theorem lull_unnoticed : (lull.map Prod.fst).Pairwise (· ≤ ·) ∧ (∀ call ∈ lull, call.1 ≤ 2000) ∧
    (start (1 : Rat) 2).forgot "a" lull = true ∧ (start (1 : Rat) 2).forgot "b" lull = false ∧
    (((start (1 : Rat) 2).after lull).serve 2000 (.available "a")).1 = .holding none ∧
    (((start (1 : Rat) 2).after lull).serve 2000 (.available "b")).1 =
      (((start (1 : Rat) 2).after (lull.filter (!·.2.isEviction))).serve 2000 (.available "b")).1 := by
  have ordered : (lull.map Prod.fst).Pairwise (· ≤ ·) := by decide
  have latest : ∀ call ∈ lull, call.1 ≤ 2000 := by decide
  have gone : (start (1 : Rat) 2).forgot "a" lull = true := by decide +kernel
  have here : (start (1 : Rat) 2).forgot "b" lull = false := by decide +kernel
  have unnoticed := evictions_unnoticed (show (0 : Rat) < 1 by norm_num) (show 1 ≤ 2 by decide) ordered latest
  obtain ⟨-, -, gap⟩ := unnoticed "a"
  obtain ⟨-, -, same⟩ := unnoticed "b"
  rw [gone, if_pos rfl] at gap
  rw [here, if_neg Bool.false_ne_true] at same
  exact ⟨ordered, latest, gone, here, gap.1, same⟩

end Turnstile.Limiter
