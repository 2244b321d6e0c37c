import Turnstile.Proofs.Gate.Answers
import Turnstile.Proofs.Policy
import Turnstile.Proofs.Window
import Turnstile.Proofs.World.Counted
import Turnstile.Proofs.World.Floors
namespace Turnstile

def reportedSince {ν : Type} (past : List (Visit ν)) (client endpoint : String) (low : Nat) : Nat :=
  (failures past).countP fun f => f.client == client && f.endpoint == endpoint && low ≤ f.reading

def reportedBetween {ν : Type} (past : List (Visit ν)) (client endpoint : String) (low high : Nat) : Nat :=
  (failures past).countP fun f =>
    f.client == client && f.endpoint == endpoint && low ≤ f.reading && f.reading ≤ high

-- From the start of a window on, windows and readings count the same.
theorem reported_aligned {ν : Type} {granularity : Duration} {start : Nat}
    (aligned : windowStart start granularity = start) (past : List (Visit ν)) (client endpoint : String) :
    reported past client endpoint granularity start = reportedSince past client endpoint start := by
  unfold reported reportedSince
  congr 1
  funext f
  simp only [Failure.counts, start_le_windowStart aligned]

theorem reportedSince_le {ν : Type} {past : List (Visit ν)} {start low high : Nat} (earlier : low ≤ start)
    (latest : ∀ f ∈ failures past, f.reading ≤ high) (client endpoint : String) :
    reportedSince past client endpoint start ≤ reportedBetween past client endpoint low high := by
  refine List.countP_mono_left fun f member counted => ?_
  simp only [Bool.and_eq_true, beq_iff_eq, decide_eq_true_eq] at counted ⊢
  exact ⟨⟨counted.1, Nat.le_trans earlier counted.2⟩, latest f member⟩

namespace Move

def Asks (client endpoint : String) : Move → Prop
  | .command (.enter c e true) _ | .command (.serve c e true _) _ => c = client ∧ e = endpoint
  | _ => False

end Move

namespace World

variable {ν : Type} [Quantity ν] {w u : World ν} {client endpoint : String}

theorem asked {m : Move} {client endpoint : String} (asks : m.Asks client endpoint) (w : World ν) :
    (w.step m).2 = w ∨ ∃ answer, Entered w client endpoint true (answer, (w.step m).2) := by
  unfold Move.Asks at asks
  split at asks
  · obtain ⟨rfl, rfl⟩ := asks
    obtain ⟨answer, _, entered⟩ := step_enter _ _ true _ w
    exact .inr ⟨answer, entered⟩
  · obtain ⟨rfl, rfl⟩ := asks
    exact step_serve _ _ true _ _ w
  · cases asks

-- The whole while a request that was screened waits for the store.
def Awaits (w u : World ν) : Prop :=
  ∃ limiter outbox, Acts False w u ∧ u.gate = ({ w.gate with limiter } : Gate ν).setOutbox outbox

theorem Awaits.same {α : Type} (awaits : Awaits w u) (part : Gate ν → α)
    (apart : ∀ limiter outbox, part (({ w.gate with limiter } : Gate ν).setOutbox outbox) = part w.gate) :
    part u.gate = part w.gate := by
  obtain ⟨limiter, outbox, _, gate⟩ := awaits
  rw [gate]
  exact apart limiter outbox

theorem Awaits.policy (awaits : Awaits w u) : u.gate.policy = w.gate.policy :=
  awaits.same Gate.policy fun _ _ => rfl

theorem Awaits.activeBan (awaits : Awaits w u) (client : String) :
    u.gate.activeBan client = w.gate.activeBan client :=
  awaits.same (Gate.activeBan · client) fun _ _ => rfl

theorem Awaits.now (awaits : Awaits w u) : u.gate.now = w.gate.now := awaits.same Gate.now fun _ _ => rfl

theorem Awaits.bounded (awaits : Awaits w u) {bound : Nat → Nat} (before : Bounded client endpoint bound w) :
    Bounded client endpoint bound u := by
  obtain ⟨limiter, outbox, acts, _⟩ := awaits
  exact acts.bounded before

theorem Awaits.read (awaits : Awaits w u) {counts : Counts} (read : u.Reads client endpoint (.ok counts))
    {m : Memory} (tables : u.backend.store = .memory m) : counts.failures = Memory.failures m.windows client endpoint
      (windowStart (w.gate.lookback client) w.gate.tally.granularity) := by
  obtain ⟨limiter, outbox, _, gate⟩ := awaits
  have answered := Backend.finish_ok read
  rw [tables, Store.answer_memory, gate, lookback_setOutbox] at answered
  have same : Memory.total m.windows client endpoint
    (windowStart (w.gate.lookback client) w.gate.tally.granularity) = counts := Except.ok.inj (Prod.mk.inj answered).1
  rw [← same, Memory.total_failures]

omit [Quantity ν] in
-- While a client is not banned, its floor and the end of its latest ban say the same.
theorem lookback_eq {ended : Option Nat} (follows : (w.standingOf client).Follows
      (w.gate.policy.window.millis + windowWidth w.gate.tally.granularity) w.gate.now ended)
    (free : w.gate.activeBan client = none) :
    windowStart (w.gate.lookback client) w.gate.tally.granularity =
      countedFrom w.gate.now w.gate.policy.window w.gate.tally.granularity ended := by
  unfold Gate.lookback countedFrom
  dsimp only
  have tracks := follows.tracks
  cases floor : w.gate.bans.floor client with
  | some f => rw [tracks.floor free f floor]
  | none =>
    cases ends : ended with
    | none => rfl
    | some x =>
      have old := tracks.forgotten free floor x ends
      have ceil := windowCeil_le x w.gate.tally.granularity
      show windowStart (w.gate.now - w.gate.policy.window.millis) _ = windowStart (max _ _) _
      rw [Nat.max_eq_left (by omega)]

theorem new_ban {answer : Except GateError Admission}
    (entered : Entered w client endpoint true (answer, u)) {other : String} {made : Ban}
    (free : w.gate.activeBan other = none) (banned : u.gate.activeBan other = some made) :
    other = client ∧ ∃ v counts tier, Awaits w v ∧ v.Reads client endpoint (.ok counts) ∧
      w.gate.policy.tierFor counts.failures = some tier ∧ made.failedAttempts ≤ counts.failures := by
  generalize result : (answer, u) = r at entered
  cases entered with
  | unsound =>
    cases result
    rw [free] at banned
    cases banned
  | answered sound screened =>
    cases result
    have screening := w.gate.screen_cases client endpoint true
    rw [screened] at screening
    cases screening with
    | banned | limited => rw [show w.gate.activeBan other = some made from banned] at free; cases free
    | admitted limiter free harmless => cases harmless
  | @judged gate n v reading sound screened waited read =>
    cases result
    obtain ⟨_, _, limiter, acts, kept⟩ := waited_of_screened screened waited
    have awaits : Awaits w v := ⟨limiter, v.gate.tally.outbox, acts, kept⟩
    rw [← awaits.activeBan other] at free
    have judged := v.gate.judge_cases client endpoint reading
    generalize v.gate.judge client endpoint reading = outcome at judged banned
    cases judged with
    | admitted =>
      rw [free] at banned
      cases banned
    | @banned counts tier made' g' reached ban event =>
      obtain ⟨same, rfl, fresh⟩ := fresh_ban ban free banned
      rw [Policy.verdict_window, awaits.policy] at reached
      refine ⟨same, v, counts, tier, awaits, ?_, reached, ?_⟩
      · rcases read with ⟨_, answered⟩ | ⟨e, _, failed⟩
        · exact answered
        · cases failed
      · rw [fresh]
        exact Nat.min_le_left ..

end World

variable {ν : Type} [Quantity ν]

-- A visit as a gate may expect it: the clock does not go back, and what is archived is out of the policy's reach.
structure Visit.Regular (window granularity : Duration) (v : Visit ν) : Prop where
  ordinary : v.move.isOrdinary
  forward : v.world.gate.now ≤ v.after.gate.now
  covered : v.move.sweeps → window.nanos + granularity.nanos ≤ v.world.gate.config.archiveAfter.nanos

instance (window granularity : Duration) (v : Visit ν) : Decidable (v.Regular window granularity) :=
  decidable_of_iff (v.move.isOrdinary ∧ v.world.gate.now ≤ v.after.gate.now ∧
      (v.move.sweeps → window.nanos + granularity.nanos ≤ v.world.gate.config.archiveAfter.nanos))
    ⟨fun ⟨ordinary, forward, covered⟩ => ⟨ordinary, forward, covered⟩,
      fun ⟨ordinary, forward, covered⟩ => ⟨ordinary, forward, covered⟩⟩

namespace World

variable {b : Blueprint} {start : Nat} {w : World ν}

theorem cutoffs_le {moves : List Move} {window : Duration} (fresh : Built b start .memory w)
    (forward : ∀ v ∈ w.visits moves, v.world.gate.now ≤ v.after.gate.now) (fits : (w.run moves).gate.now ≤ wordMax)
    {v : Visit ν} (member : v ∈ w.visits moves)
    (covered : window.nanos + w.gate.tally.granularity.nanos ≤ v.world.gate.config.archiveAfter.nanos) :
    v.world.gate.now - v.world.gate.config.archiveAfter.millis ≤
      v.world.gate.now - (window.millis + windowWidth w.gate.tally.granularity) := by
  obtain ⟨secs, positive, whole⟩ := fresh.width
  have seen := (forward_run moves forward).1 v member
  rw [whole] at covered ⊢
  exact cutoff_le positive (Nat.le_trans seen fits) covered

theorem lookback_run {moves : List Move} {client : String} (fresh : Built b start .memory w)
    (regular : ∀ v ∈ w.visits moves, v.Regular (w.run moves).gate.policy.window w.gate.tally.granularity)
    (fits : (w.run moves).gate.now ≤ wordMax) (free : (w.run moves).gate.activeBan client = none) :
    windowStart ((w.run moves).gate.lookback client) w.gate.tally.granularity =
        countedFrom (w.run moves).gate.now (w.run moves).gate.policy.window w.gate.tally.granularity
          (latestEnd client (w.visits moves)) ∧
      ∀ x, latestEnd client (w.visits moves) = some x → x ≤ (w.run moves).gate.now := by
  have same : (w.run moves).gate.tally.granularity = w.gate.tally.granularity :=
    granularity_run moves fun v member => Move.isOwn_of_isOrdinary (regular v member).ordinary
  have follows := follows_run fresh.bans ⟨.empty, by rw [fresh.backend]; rfl⟩ moves
    (fun v member => ⟨(regular v member).ordinary, (regular v member).forward, fun sweeps =>
      cutoffs_le fresh (fun v member => (regular v member).forward) fits member ((regular v member).covered sweeps)⟩) client
  rw [← same] at follows ⊢
  exact ⟨lookback_eq follows free, follows.tracks.finished free⟩

-- A ban for failures rests on failures that were reported, not before the window in which the policy begins to look
-- back and not before the end of the client's latest ban. Nothing is assumed of the store, the queue or the reloads.
theorem escalation_justified {sink : Sink} (built : World.build b start .memory sink = .ok w) (moves : List Move)
    {u : World ν} (reached : w.run moves = u)
    (regular : ∀ v ∈ w.visits moves, v.Regular u.gate.policy.window u.gate.tally.granularity)
    (fits : u.gate.now + windowWidth u.gate.tally.granularity ≤ wordMax) {m : Move} {client endpoint other : String}
    (asks : m.Asks client endpoint) {made : Ban} (free : u.gate.activeBan other = none)
    (banned : (u.step m).2.gate.activeBan other = some made) :
    other = client ∧ ∃ least count, u.gate.policy.lowest? = some least ∧
      count = reportedBetween (w.visits moves) client endpoint
        (max (windowStart (u.gate.now - u.gate.policy.window.millis) u.gate.tally.granularity)
          ((latestEnd client (w.visits moves)).getD 0)) u.gate.now ∧
      least ≤ count ∧ made.failedAttempts ≤ count := by
  have fresh := World.built built
  have ordinary v (member : v ∈ w.visits moves) := (regular v member).ordinary
  have same : u.gate.tally.granularity = w.gate.tally.granularity :=
    reached ▸ granularity_run moves fun v member => Move.isOwn_of_isOrdinary (ordinary v member)
  rcases asked asks u with idle | ⟨answer, entered⟩
  · rw [idle, free] at banned
    cases banned
  obtain ⟨rfl, v, counts, tier, awaits, read, tier_reached, stated⟩ := new_ban entered free banned
  refine ⟨rfl, ?_⟩
  -- What is read is at most what was reported in windows from the lookback on.
  have bounded : Bounded other endpoint (reported (w.visits moves) other endpoint w.gate.tally.granularity) u :=
    reached ▸ (bounded_run (by rw [fresh.backend]; rfl) fresh.pending moves ordinary _ _).2
  obtain ⟨tables, there, within⟩ := awaits.bounded bounded
  have counted := awaits.read read there
  rw [same] at regular fits counted ⊢
  rw [← reached] at regular fits free
  obtain ⟨looked, finished⟩ := lookback_run fresh regular (Nat.le_trans (Nat.le_add_right ..) fits) free
  rw [reached] at looked finished fits
  have enough := within (windowStart (u.gate.lookback other) w.gate.tally.granularity)
  rw [looked, reported_aligned (windowStart_countedFrom ..)] at enough
  -- The lookback is within the policy's reach, and after the latest ban.
  have low : max (windowStart (u.gate.now - u.gate.policy.window.millis) w.gate.tally.granularity)
      ((latestEnd other (w.visits moves)).getD 0) ≤
        countedFrom u.gate.now u.gate.policy.window w.gate.tally.granularity (latestEnd other (w.visits moves)) := by
    refine Nat.max_le.2 ⟨windowStart_le_countedFrom .., ?_⟩
    cases ends : latestEnd other (w.visits moves) with
    | none => exact Nat.zero_le _
    | some x =>
      have past := finished x ends
      have near : x + windowWidth w.gate.tally.granularity ≤ wordMax := by omega
      exact end_le_countedFrom near _
  have latest := (forward_run moves fun v member => (regular v member).forward).2
  rw [reached] at latest
  have all := reportedSince_le low latest other endpoint
  rw [looked] at counted
  obtain ⟨least, lowest, le⟩ := Policy.lowest_of_reached tier_reached
  unfold World.counted at enough
  exact ⟨least, _, lowest, rfl, by omega, by omega⟩

def lossyFailures : List Move :=
  [.command (.outcome "a" "login" false) [], .command (.outcome "a" "login" false) [], .command (.clock 1000) [],
    .command (.outcome "a" "login" false) [], .faults [some (.backend "disk full")], .flush]

theorem lossy_ban_justified : ∃ made least count,
    ((strict.run lossyFailures).step (.command (.enter "a" "login" true) [])).2.gate.activeBan "a" = some made ∧
      (strict.run lossyFailures).gate.policy.lowest? = some least ∧ least ≤ count ∧ made.failedAttempts ≤ count := by
  have free : (strict.run lossyFailures).gate.activeBan "a" = none := by decide +kernel
  have asks : (Move.command (.enter "a" "login" true) []).Asks "a" "login" := ⟨rfl, rfl⟩
  have found : (((strict.run lossyFailures).step (.command (.enter "a" "login" true) [])).2.gate.activeBan
    "a").isSome = true := by decide +kernel
  obtain ⟨made, banned⟩ := Option.isSome_iff_exists.1 found
  obtain ⟨_, least, count, lowest, _, enough, stated⟩ := escalation_justified build_strict lossyFailures rfl
    (by decide +kernel) (by decide +kernel) asks free banned
  exact ⟨made, least, count, banned, lowest, enough, stated⟩

omit [Quantity ν] in
theorem judge_sound {g : Gate ν} {client : String} {least : Nat} (sound : g.policy.Usable)
    (lowest : g.policy.lowest? = some least) (valid : Client.Valid client) (endpoint : String) (counts : Counts) :
    (least ≤ counts.failures → ∃ made, (g.judge client endpoint (.ok counts)).2.activeBan client = some made ∧
      (g.judge client endpoint (.ok counts)).1 = .banned (made.timeLeft g.now) made.reason) ∧
    (counts.failures < least → g.judge client endpoint (.ok counts) = (.admitted, g)) := by
  have known := Policy.lowest_le lowest counts.failures
  constructor
  · intro enough
    obtain ⟨tier, reached⟩ := Option.isSome_iff_exists.1 (known.2 enough)
    have accepted := sound.accepted (Policy.tierFor_eq_some reached).1 valid
    cases ban : g.ban client g.policy.reason tier.duration (Gate.toHalf counts.failures) systemActor with
    | mk answer g' =>
      cases answer with
      | error e =>
        have refused := g.ban_cases client g.policy.reason tier.duration (Gate.toHalf counts.failures) systemActor
        rw [ban] at refused
        cases refused with
        | refused faulty => rw [accepted] at faulty; cases faulty
      | ok made =>
        obtain ⟨blocks, now⟩ := ban_blocks ban
        refine ⟨made, ?_, ?_⟩
        · simp only [Gate.judge, Gate.escalate, Policy.verdict_window, reached, ban]
          exact blocks
        · simp only [Gate.judge, Gate.escalate, Policy.verdict_window, reached, ban, now]
  · intro few
    have missed : g.policy.tierFor counts.failures = none := by
      rw [← Option.not_isSome_iff_eq_none, known]
      omega
    simp only [Gate.judge, Gate.escalate, Policy.verdict_window, missed]

omit [Quantity ν] in
theorem reads_prompt {client endpoint : String} {m : Memory} {reading : Except StoreError Counts}
    (healthy : w.backend.Healthy) (tables : w.backend.store = .memory m)
    (patient : (w.backend.patience (some w.gate.config.criticalReadTimeout)).2 = false)
    (read : w.Reads client endpoint reading) : ∃ counts, reading = .ok counts := by
  have prompt := healthy.finish_patient tables patient
    (.count client endpoint (windowStart (w.gate.lookback client) w.gate.tally.granularity))
  exact ⟨_, (Prod.mk.inj (read.symm.trans prompt)).1⟩

-- What becomes of a critical request of a client that is not banned and has a token, while the queue is empty and the
-- store answers in time.
theorem enter_judged {client : String} {m : Memory} (valid : Client.Valid client)
    (free : w.gate.activeBan client = none) (token : (w.gate.acquire client).1.isAllowed = true)
    (drained : w.pending = []) (healthy : w.backend.Healthy) (tables : w.backend.store = .memory m)
    (patient : (w.backend.patience (some w.gate.config.criticalReadTimeout)).2 = false) (endpoint : String)
    (meanwhile : List Nat) :
    ∃ (v : World ν) (counts : Counts), v.gate.policy = w.gate.policy ∧ v.gate.now = w.gate.now ∧
      v.gate.activeBan client = none ∧
      counts.failures = Memory.failures m.windows client endpoint
        (windowStart (w.gate.lookback client) w.gate.tally.granularity) ∧
      w.step (.command (.enter client endpoint true) meanwhile) =
        (.admission (.ok (v.gate.judge client endpoint (.ok counts)).1),
          ({ v with gate := (v.gate.judge client endpoint (.ok counts)).2 } : World ν)) := by
  obtain ⟨answer, replied, entered⟩ := step_enter client endpoint true meanwhile w
  generalize w.step (.command (.enter client endpoint true) meanwhile) = r at replied entered
  obtain ⟨reply, u⟩ := r
  obtain rfl : reply = .admission answer := replied
  dsimp only at entered
  generalize result : (answer, u) = outcome at entered
  cases entered with
  | unsound faulty => rw [show Client.fault? client = none from valid] at faulty; cases faulty
  | answered sound screened => rw [Gate.screen_of_token free token] at screened; cases screened
  | @judged gate n v reading sound screened waited read =>
    cases result
    rw [Gate.screen_of_token free token] at screened
    cases screened
    have empty : ({ w with gate := (w.gate.acquire client).2, backend := w.backend.arrive.2 } : World ν).pending = [] :=
      drained
    rw [deliverMany_of_nil empty] at waited
    rcases read with ⟨_, read⟩ | ⟨e, failed, _⟩
    · have awaits : Awaits w v := ⟨(w.gate.limiter.acquire w.gate.now client).2, v.gate.tally.outbox,
        by rw [waited]; exact .tail (.single (.limit w _)) (.arrive _), by rw [waited]; rfl⟩
      have there : v.backend.store = .memory m := by rw [waited]; exact (Backend.store_arrive _).trans tables
      have well : v.backend.Healthy := by rw [waited]; exact healthy.arrive.2
      have waits : (v.backend.patience (some v.gate.config.criticalReadTimeout)).2 = false := by
        rw [waited]
        exact (congrArg Prod.snd (Backend.patience_arrive _ _)).trans patient
      obtain ⟨counts, rfl⟩ := reads_prompt well there waits read
      exact ⟨v, counts, awaits.policy, awaits.now, (awaits.activeBan client).trans free, awaits.read read there, rfl⟩
    · rw [healthy.arrive.1] at failed
      cases failed

-- What gate and store know of a client's failures: where they begin to count, and that nothing is missing from there on and
-- nothing was added.
structure Reckoned (past : List (Visit ν)) (client endpoint : String) (ended : Option Nat) (u : World ν) : Prop where
  follows : (u.standingOf client).Follows (u.gate.policy.window.millis + windowWidth u.gate.tally.granularity) u.gate.now ended
  bounded : Bounded client endpoint (reported past client endpoint u.gate.tally.granularity) u
  complete : ∃ tables, u.backend.store = .memory tables ∧
    min (reported past client endpoint u.gate.tally.granularity
        (countedFrom u.gate.now u.gate.policy.window u.gate.tally.granularity ended)) wordMax ≤
      counted tables u.pending client endpoint
        (countedFrom u.gate.now u.gate.policy.window u.gate.tally.granularity ended)

omit [Quantity ν] in
theorem Reckoned.failures {past : List (Visit ν)} {client endpoint : String} {ended : Option Nat} {m : Memory}
    (reckoned : Reckoned past client endpoint ended u) (drained : u.pending = []) (tables : u.backend.store = .memory m)
    (free : u.gate.activeBan client = none) {count seen : Nat}
    (counted : count = reportedSince past client endpoint
      (countedFrom u.gate.now u.gate.policy.window u.gate.tally.granularity ended))
    (read : seen = Memory.failures m.windows client endpoint
      (windowStart (u.gate.lookback client) u.gate.tally.granularity)) :
    seen ≤ count ∧ min count wordMax ≤ seen := by
  obtain ⟨follows, ⟨there, same, within⟩, ⟨here, also, enough⟩⟩ := reckoned
  cases tables.symm.trans same
  cases tables.symm.trans also
  rw [← reported_aligned (windowStart_countedFrom ..)] at counted
  rw [lookback_eq follows free] at read
  rw [drained] at within enough
  rw [counted, read]
  exact ⟨within _, enough⟩

theorem Reckoned.judged {past : List (Visit ν)} {client endpoint : String} {ended : Option Nat}
    (reckoned : Reckoned past client endpoint ended u) (healthy : u.backend.Healthy)
    (patient : (u.backend.patience (some u.gate.config.criticalReadTimeout)).2 = false) (drained : u.pending = [])
    (sound : u.gate.policy.Usable) (valid : Client.Valid client) (free : u.gate.activeBan client = none)
    (token : (u.gate.acquire client).1.isAllowed = true) {count : Nat}
    (counted : count = reportedSince past client endpoint
      (countedFrom u.gate.now u.gate.policy.window u.gate.tally.granularity ended))
    {meanwhile : List Nat} {reply : Reply} {after : World ν}
    (entered : u.step (.command (.enter client endpoint true) meanwhile) = (reply, after)) :
    ∃ least, u.gate.policy.lowest? = some least ∧
      (least ≤ count ↔ ∃ made, after.gate.activeBan client = some made ∧
        reply = .admission (.ok (.banned (made.timeLeft u.gate.now) made.reason))) ∧
      (count < least → reply = .admission (.ok .admitted) ∧ after.gate.activeBan client = none) := by
  obtain ⟨m, tables, _⟩ := reckoned.bounded
  obtain ⟨v, counts, policy, now, unbanned, read, told⟩ :=
    enter_judged valid free token drained healthy tables patient endpoint meanwhile
  obtain ⟨least, lowest, small⟩ := sound.lowest
  obtain ⟨most, enough⟩ := reckoned.failures drained tables free counted read
  have word : halfMax ≤ wordMax := by decide
  obtain ⟨bans, admits⟩ := judge_sound (policy ▸ sound) (policy ▸ lowest) valid endpoint counts
  rw [entered] at told
  obtain ⟨rfl, rfl⟩ := Prod.mk.inj told
  have few : count < least → v.gate.judge client endpoint (.ok counts) = (.admitted, v.gate) := fun few =>
    admits (by omega)
  refine ⟨least, lowest, ⟨fun reached => ?_, ?_⟩, fun missed => ?_⟩
  · obtain ⟨made, blocks, denied⟩ := bans (by omega)
    exact ⟨made, blocks, by rw [denied, now]⟩
  · rintro ⟨made, blocks, denied⟩
    by_contra missed
    rw [few (Nat.lt_of_not_le missed)] at blocks
    exact absurd (unbanned.symm.trans blocks) nofun
  · rw [few missed]
    exact ⟨rfl, unbanned⟩

theorem reckoned_run {moves : List Move} (fresh : Built b start .memory w)
    (regular : ∀ v ∈ w.visits moves, v.Regular (w.run moves).gate.policy.window w.gate.tally.granularity)
    (intact : ∀ v ∈ w.visits moves, v.Intact) (fits : (w.run moves).gate.now ≤ wordMax) (client endpoint : String) :
    Reckoned (w.visits moves) client endpoint (latestEnd client (w.visits moves)) (w.run moves) := by
  have ordinary v (member : v ∈ w.visits moves) := (regular v member).ordinary
  have forward v (member : v ∈ w.visits moves) := (regular v member).forward
  have empty : w.backend.store = .memory .empty := by rw [fresh.backend]; rfl
  obtain ⟨same, bounded⟩ := bounded_run empty fresh.pending moves ordinary client endpoint
  have cutoff v (member : v ∈ w.visits moves) (sweeps : v.move.sweeps) :=
    cutoffs_le fresh forward fits member ((regular v member).covered sweeps)
  refine ⟨?_, ?_, ?_⟩
  · rw [same]
    exact follows_run fresh.bans ⟨.empty, empty⟩ moves
      (fun v member => ⟨ordinary v member, forward v member, cutoff v member⟩) client
  · rw [same]
    exact bounded
  · rw [same]
    refine complete_run empty moves fun v member => ?_
    refine ⟨ordinary v member, (intact v member).healthy, (intact v member).lossless, fun sweeps => ?_⟩
    have early := cutoff v member sweeps
    have past := (forward_run moves forward).1 v member
    exact cutoff_le_countedFrom (by omega) _

-- A critical request of a client that is not banned and has a token is refused with a new ban exactly if the lowest
-- threshold is reached by what was reported of it, from the first whole window after its latest ban on.
theorem escalation_exact {sink : Sink} (built : World.build b start .memory sink = .ok w) (moves : List Move)
    {u : World ν} (reached : w.run moves = u)
    (regular : ∀ v ∈ w.visits moves, v.Regular u.gate.policy.window u.gate.tally.granularity)
    (intact : ∀ v ∈ w.visits moves, v.Intact) (healthy : u.backend.Healthy)
    (patient : (u.backend.patience (some u.gate.config.criticalReadTimeout)).2 = false) (drained : u.pending = [])
    (fits : u.gate.now + windowWidth u.gate.tally.granularity ≤ wordMax) (sound : u.gate.policy.Usable)
    {client : String} (valid : Client.Valid client) (free : u.gate.activeBan client = none)
    (token : (u.gate.acquire client).1.isAllowed = true) (endpoint : String) {count : Nat}
    (counted : count = reportedSince (w.visits moves) client endpoint
      (countedFrom u.gate.now u.gate.policy.window u.gate.tally.granularity (latestEnd client (w.visits moves))))
    {meanwhile : List Nat} {reply : Reply} {after : World ν}
    (entered : u.step (.command (.enter client endpoint true) meanwhile) = (reply, after)) :
    ∃ least, u.gate.policy.lowest? = some least ∧
      (least ≤ count ↔ ∃ made, after.gate.activeBan client = some made ∧
        reply = .admission (.ok (.banned (made.timeLeft u.gate.now) made.reason))) ∧
      (count < least → reply = .admission (.ok .admitted) ∧ after.gate.activeBan client = none) := by
  have fresh := World.built built
  have same : u.gate.tally.granularity = w.gate.tally.granularity :=
    reached ▸ granularity_run moves fun v member => Move.isOwn_of_isOrdinary (regular v member).ordinary
  rw [same] at regular fits
  subst reached
  have reckoned := reckoned_run fresh regular intact (Nat.le_trans (Nat.le_add_right ..) fits) client endpoint
  exact reckoned.judged healthy patient drained sound valid free token counted entered

def twoFailures : List Move :=
  [.command (.outcome "a" "login" false) [], .command (.clock 1000) [],
    .command (.login "a" "login" "root" false none) [], .flush, .command (.maintain true) []]

theorem second_failure_bans : ∃ made,
    ((strict.run twoFailures).step (.command (.enter "a" "login" true) [])).2.gate.activeBan "a" = some made := by
  have valid : Client.Valid "a" := by decide +kernel
  have free : (strict.run twoFailures).gate.activeBan "a" = none := by decide +kernel
  have token : ((strict.run twoFailures).gate.acquire "a").1.isAllowed = true := by decide +kernel
  have sound : (strict.run twoFailures).gate.policy.Usable :=
    ⟨by decide +kernel, by decide +kernel, by decide +kernel⟩
  have two : 2 = reportedSince (strict.visits twoFailures) "a" "login" (countedFrom (strict.run twoFailures).gate.now
      (strict.run twoFailures).gate.policy.window (strict.run twoFailures).gate.tally.granularity
      (latestEnd "a" (strict.visits twoFailures))) := by decide +kernel
  have told := Prod.eta ((strict.run twoFailures).step (.command (.enter "a" "login" true) []))
  obtain ⟨least, lowest, denied, _⟩ := escalation_exact build_strict twoFailures rfl (by decide +kernel)
    (by decide +kernel) (by decide +kernel) (by decide +kernel) (by decide +kernel) (by decide +kernel) sound valid free
    token "login" two told.symm
  have low : (strict.run twoFailures).gate.policy.lowest? = some 2 := by decide +kernel
  cases low.symm.trans lowest
  obtain ⟨made, blocks, _⟩ := denied.1 (Nat.le_refl _)
  exact ⟨made, blocks⟩

end World

end Turnstile
