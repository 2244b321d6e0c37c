import Turnstile.Proofs.Gate.Answers
import Turnstile.Proofs.Limiter.Bound
import Turnstile.Proofs.Registry.SameSince
import Turnstile.Proofs.Window
namespace Turnstile

namespace Gate

variable {ν : Type}

def cutoff (g : Gate ν) : Nat := g.now - g.config.archiveAfter.millis

-- Windows are kept for as long as a policy may look back, and the whole window in which it begins to.
def Retains (g : Gate ν) : Prop :=
  satAdd g.policy.window.millis (windowWidth g.tally.granularity) ≤ g.config.archiveAfter.millis

section
variable {g : Gate ν} (retains : g.Retains) (fits : g.now ≤ wordMax)
include retains fits

theorem cutoff_early : g.cutoff ≤ g.now - (g.policy.window.millis + windowWidth g.tally.granularity) := by
  unfold Retains satAdd at retains
  unfold cutoff
  omega

theorem cutoff_le_horizon (client : String) : g.cutoff ≤ g.horizon client := by
  have early := cutoff_early retains fits
  have next := lt_windowStart_add (g.now - g.policy.window.millis) g.tally.granularity
  have least : windowStart (g.now - g.policy.window.millis) g.tally.granularity ≤ g.horizon client := by
    unfold horizon lookback
    cases g.bans.floor client with
    | none => exact Nat.le_refl _
    | some floor => exact windowStart_mono (Nat.le_max_left ..) _
  omega

-- A floor before the cutoff makes no difference to where failures begin to count.
theorem lookback_of_low {client : String} (low : ∀ f, g.bans.floor client = some f → f < g.cutoff) :
    g.lookback client = g.now - g.policy.window.millis := by
  have early := cutoff_early retains fits
  unfold lookback
  cases floor : g.bans.floor client with
  | none => rfl
  | some f =>
    have ceil := windowCeil_le f g.tally.granularity
    have old := low f floor
    exact Nat.max_eq_left (by omega)

end

structure Matches (g h : Gate Rat) : Prop where
  now : h.now = g.now
  config : h.config = g.config
  policy : h.policy = g.policy
  tally : h.tally = g.tally
  limiter : g.limiter.SameLevels g.now h.limiter
  standing : ∀ client, (g.bans.standing client).SameSince g.now g.cutoff (h.bans.standing client)

variable {g h : Gate Rat} {client : String}

theorem Matches.cutoff (matching : g.Matches h) : h.cutoff = g.cutoff := by
  unfold Gate.cutoff
  rw [matching.now, matching.config]

theorem Matches.symm (matching : g.Matches h) : h.Matches g := by
  refine ⟨matching.now.symm, matching.config.symm, matching.policy.symm, matching.tally.symm, ?_, fun client => ?_⟩
  · rw [matching.now]
    exact matching.limiter.symm
  · rw [matching.now, matching.cutoff]
    exact (matching.standing client).symm

theorem Matches.activeBan (matching : g.Matches h) (client : String) : h.activeBan client = g.activeBan client := by
  have same := (matching.standing client).ban
  unfold Gate.activeBan
  rw [matching.now]
  exact same.symm

theorem Matches.retains (matching : g.Matches h) (retains : g.Retains) : h.Retains := by
  unfold Gate.Retains
  rw [matching.policy, matching.tally, matching.config]
  exact retains

theorem Matches.lookback (matching : g.Matches h) (retains : g.Retains) (fits : g.now ≤ wordMax) (client : String) :
    h.lookback client = g.lookback client := by
  rcases (matching.standing client).floors with same | ⟨low, low'⟩
  · replace same : g.bans.floor client = h.bans.floor client := same
    unfold Gate.lookback
    rw [matching.now, matching.policy, matching.tally, same]
  · rw [← matching.cutoff] at low'
    rw [lookback_of_low retains fits low, lookback_of_low (matching.retains retains) (matching.now ▸ fits) low', matching.now,
      matching.policy]

theorem Matches.horizon (matching : g.Matches h) (retains : g.Retains) (fits : g.now ≤ wordMax) (client : String) :
    h.horizon client = g.horizon client := by
  unfold Gate.horizon
  rw [matching.lookback retains fits, matching.tally]

-- Parts that change are alike again; nobody looks at trail and upkeep.
theorem Matches.withBans {r q : Registry} (matching : g.Matches h)
    (standing : ∀ client, (r.standing client).SameSince g.now g.cutoff (q.standing client)) :
    Matches { g with bans := r } { h with bans := q } :=
  ⟨matching.now, matching.config, matching.policy, matching.tally, matching.limiter, standing⟩

theorem Matches.withLimiter {l k : Limiter Rat} (matching : g.Matches h) (limiter : l.SameLevels g.now k) :
    Matches { g with limiter := l } { h with limiter := k } :=
  ⟨matching.now, matching.config, matching.policy, matching.tally, limiter, matching.standing⟩

theorem Matches.withTrail (matching : g.Matches h) (trail trail' : Trail) :
    Matches { g with trail } { h with trail := trail' } :=
  ⟨matching.now, matching.config, matching.policy, matching.tally, matching.limiter, matching.standing⟩

theorem Matches.withUpkeep (matching : g.Matches h) (upkeep : Upkeep) : Matches { g with upkeep } h :=
  ⟨matching.now, matching.config, matching.policy, matching.tally, matching.limiter, matching.standing⟩

theorem Matches.setOutbox (matching : g.Matches h) (o : Outbox) : Matches (g.setOutbox o) (h.setOutbox o) :=
  ⟨matching.now, matching.config, matching.policy, congrArg (fun t : Tally => { t with outbox := o }) matching.tally, matching.limiter,
    matching.standing⟩

theorem Matches.send (matching : g.Matches h) (w : Write) : Matches (g.send w) (h.send w) := by
  have same : h.send w = h.setOutbox (g.tally.outbox.send w) := by
    rw [← matching.tally]
    rfl
  rw [same]
  exact matching.setOutbox _

theorem Matches.count (matching : g.Matches h) (client endpoint : String) (outcome : Outcome) :
    Matches (g.count client endpoint outcome) (h.count client endpoint outcome) := by
  have same : h.count client endpoint outcome =
      h.send (.window client endpoint (windowStart g.now g.tally.granularity) outcome) := by
    rw [← matching.now, ← matching.tally]
    rfl
  rw [same]
  exact matching.send _

theorem Matches.acquire (matching : g.Matches h) (client : String) :
    (h.acquire client).1 = (g.acquire client).1 ∧ (g.acquire client).2.Matches (h.acquire client).2 := by
  obtain ⟨decision, limiter⟩ := matching.limiter.acquire client
  have here : h.limiter.acquire h.now client = h.limiter.acquire g.now client := by rw [matching.now]
  rw [← here] at decision limiter
  exact ⟨decision.symm, matching.withLimiter limiter⟩

theorem Matches.screen (matching : g.Matches h) (client endpoint : String) (critical : Bool) :
    (h.screen client endpoint critical).1 = (g.screen client endpoint critical).1 ∧
      (g.screen client endpoint critical).2.Matches (h.screen client endpoint critical).2 := by
  have ban := matching.activeBan client
  cases active : g.activeBan client with
  | some b =>
    rw [active] at ban
    rw [screen_of_active active, screen_of_active ban, matching.now]
    exact ⟨rfl, matching⟩
  | none =>
    obtain ⟨decision, acquired⟩ := matching.acquire client
    rw [active] at ban
    rw [screen_of_free active, screen_of_free ban, decision]
    cases (g.acquire client).1 with
    | denied wait => exact ⟨rfl, acquired.count client endpoint .throttled⟩
    | allowed left =>
      cases critical with
      | true => exact ⟨rfl, acquired⟩
      | false => exact ⟨rfl, acquired.count client endpoint .succeeded⟩

section
variable (reason : String) (d : Duration) (failures : Nat) (actor : String)

-- A ban that begins or goes on puts the floor in the future.
theorem Matches.ban (matching : g.Matches h) (client : String) :
    (h.ban client reason d failures actor).1 = (g.ban client reason d failures actor).1 ∧
      (g.ban client reason d failures actor).2.Matches (h.ban client reason d failures actor).2 := by
  cases sound : banFault? client reason d with
  | some fault =>
    rw [ban_of_fault reason d failures actor sound, ban_of_fault reason d failures actor sound]
    exact ⟨rfl, matching⟩
  | none =>
    obtain ⟨event, banned⟩ := ban_of_sound (g := g) reason d failures actor sound
    obtain ⟨event', banned'⟩ := ban_of_sound (g := h) reason d failures actor sound
    have known : (h.bans.standing client).activeBan h.now = (g.bans.standing client).activeBan g.now := matching.activeBan client
    have made : (h.bans.ban h.now client reason d failures actor).2.1 =
        (g.bans.ban g.now client reason d failures actor).2.1 := by
      rw [Registry.ban_made, Registry.ban_made, known, matching.now]
    have standing : ∀ other, ((g.bans.ban g.now client reason d failures actor).2.2.standing other).SameSince g.now g.cutoff
        ((h.bans.ban h.now client reason d failures actor).2.2.standing other) := by
      intro other
      rw [Registry.standing_ban, Registry.standing_ban, known, matching.now]
      split
      · obtain ⟨_, live, _⟩ := Registry.banned_live (g.bans.standing client) g.now client reason d failures actor
        have late : g.cutoff ≤ (Registry.banned ((g.bans.standing client).activeBan g.now) g.now client reason d failures
            actor).bannedUntil := Nat.le_trans (Nat.sub_le ..) (Nat.le_of_lt live)
        rw [(matching.standing client).raised late]
        exact ⟨rfl, rfl⟩
      · exact matching.standing other
    rw [banned, banned', made]
    exact ⟨rfl, ((matching.withBans standing).send _).withTrail _ _⟩

end

theorem Matches.unban (matching : g.Matches h) (client actor : String) (note : Option String) :
    (h.unban client actor note).1 = (g.unban client actor note).1 ∧
      (g.unban client actor note).2.Matches (h.unban client actor note).2 := by
  cases sound : Client.fault? client with
  | some fault =>
    rw [unban_of_fault actor note sound, unban_of_fault actor note sound]
    exact ⟨rfl, matching⟩
  | none =>
    have known : (h.bans.standing client).activeBan h.now = (g.bans.standing client).activeBan g.now := matching.activeBan client
    have standing : ∀ other, ((g.bans.unban g.now client).2.standing other).SameSince g.now g.cutoff
        ((h.bans.unban h.now client).2.standing other) := by
      intro other
      rw [Registry.standing_unban, Registry.standing_unban, known, matching.now]
      split
      · cases (g.bans.standing client).activeBan g.now with
        | none => exact ⟨rfl, (matching.standing client).floor⟩
        | some b => exact ⟨rfl, rfl⟩
      · exact matching.standing other
    have changed := matching.withBans standing
    rcases unban_of_sound (g := g) actor note sound with ⟨free, unbanned⟩ | ⟨before, event, active, unbanned⟩
    · rcases unban_of_sound (g := h) actor note sound with ⟨_, unbanned'⟩ | ⟨before', _, active', _⟩
      · rw [unbanned, unbanned']
        exact ⟨rfl, changed⟩
      · rw [matching.activeBan, free] at active'
        cases active'
    · rcases unban_of_sound (g := h) actor note sound with ⟨free', _⟩ | ⟨before', event', active', unbanned'⟩
      · rw [matching.activeBan, active] at free'
        cases free'
      · rw [matching.activeBan, active] at active'
        cases active'
        rw [unbanned, unbanned', matching.now]
        rw [matching.now] at changed
        exact ⟨rfl, (changed.send _).withTrail _ _⟩

theorem Matches.judge (matching : g.Matches h) (client endpoint : String) (reading : Except StoreError Counts) :
    (h.judge client endpoint reading).1 = (g.judge client endpoint reading).1 ∧
      (g.judge client endpoint reading).2.Matches (h.judge client endpoint reading).2 := by
  cases reading with
  | error e => exact ⟨rfl, matching⟩
  | ok counts =>
    have policy := matching.policy
    cases reached : g.policy.verdict counts.failures g.policy.window with
    | none =>
      rw [judge_of_none reached, judge_of_none (by rw [policy]; exact reached)]
      exact ⟨rfl, matching⟩
    | some tier =>
      rw [judge_of_verdict reached, judge_of_verdict (by rw [policy]; exact reached), policy]
      have banned := matching.ban g.policy.reason tier.duration (toHalf counts.failures) systemActor client
      generalize g.ban client g.policy.reason tier.duration (toHalf counts.failures) systemActor = made at banned
      generalize h.ban client g.policy.reason tier.duration (toHalf counts.failures) systemActor = made' at banned
      obtain ⟨answer, g'⟩ := made
      obtain ⟨answer', h'⟩ := made'
      obtain ⟨equal, after⟩ := banned
      cases equal
      cases answer with
      | error e => exact ⟨rfl, after⟩
      | ok b =>
        have now : h'.now = g'.now := after.now
        exact ⟨congrArg (fun now => Admission.banned (b.timeLeft now) b.reason) now, after.withTrail _ _⟩

theorem Matches.expire (matching : g.Matches h) : g.expire.2.Matches h := by
  refine matching.withBans (r := (g.bans.expire g.now).2) (q := h.bans) fun client => ?_
  rw [Registry.standing_expire]
  exact (matching.standing client).expire

theorem Matches.forgetFloors (matching : g.Matches h) : (g.pruneFloors g.cutoff).2.Matches h := by
  refine matching.withBans (r := (g.bans.pruneFloors g.cutoff).2) (q := h.bans) fun client => ?_
  rw [Registry.standing_pruneFloors]
  exact (matching.standing client).forget

theorem Matches.evict (matching : g.Matches h) (idle : Nat) :
    Matches { g with limiter := (g.limiter.evictIdle g.now idle).2 } h :=
  matching.withLimiter (k := h.limiter) (matching.limiter.evict idle)

-- Rows of the store that only show what is known.
theorem Matches.merge (matching : g.Matches h) {rows : List Ban}
    (listed : ∀ client, rows.filter (·.address == client) = (g.activeBan client).toList)
    (grounded : ∀ client b, g.activeBan client = some b → g.bans.floor client = some b.bannedUntil) :
    (g.merge g.now rows).2.Matches h := by
  refine matching.withBans (r := (g.bans.merge g.now rows).2) (q := h.bans) fun client => ?_
  rw [Registry.standing_merge, listed client]
  exact (matching.standing client).reload (grounded client)

theorem Matches.pruneFloors (matching : g.Matches h) (before : Nat) :
    (g.pruneFloors before).2.Matches (h.pruneFloors before).2 := by
  refine matching.withBans (r := (g.bans.pruneFloors before).2) (q := (h.bans.pruneFloors before).2) fun client => ?_
  rw [Registry.standing_pruneFloors, Registry.standing_pruneFloors]
  exact (matching.standing client).prune before

theorem Matches.clock (matching : g.Matches h) {reading : Nat} (forward : g.now ≤ reading) :
    Matches { g with now := reading } { h with now := reading } := by
  have rising : g.cutoff ≤ ({ g with now := reading } : Gate Rat).cutoff := Nat.sub_le_sub_right forward _
  exact ⟨rfl, matching.config, matching.policy, matching.tally, matching.limiter.later forward,
    fun client => (matching.standing client).later forward rising⟩

theorem Matches.update_reports (matching : g.Matches h) {c : Command} (reports : c.reports = true) :
    (c.update g).Matches (c.update h) := by
  rw [Command.update_reports reports, Command.update_reports reports,
    Command.writes_reports reports matching.now (congrArg Tally.granularity matching.tally), matching.tally]
  exact matching.setOutbox _

end Gate

end Turnstile
