import Turnstile.Proofs.Gate.Answers
import Turnstile.Proofs.Store.Clients
namespace Turnstile

def Write.client : Write → String
  | .window client .. => client
  | .attempt a => a.address
  | .ban b => b.address
  | .release address .. => address

theorem Write.client_call (w : Write) : w.call.client? = some w.client := by
  cases w <;> rfl

variable {ν : Type} {client other : String}

namespace Limiter

structure SameFor (client : String) (l k : Limiter ν) : Prop where
  rate : k.rate = l.rate
  burst : k.burst = l.burst
  bucket : k.buckets.get? client = l.buckets.get? client

variable [Quantity ν] {l k : Limiter ν}

theorem SameFor.tokensAt (same : SameFor client l k) : k.tokensAt = l.tokensAt := by
  funext now b
  unfold Limiter.tokensAt
  rw [same.rate, same.burst]

theorem SameFor.available (same : SameFor client l k) (now : Nat) : k.available now client = l.available now client := by
  unfold Limiter.available
  rw [same.bucket, same.tokensAt]

theorem SameFor.acquire (same : SameFor client l k) (now : Nat) :
    (k.acquire now client).1 = (l.acquire now client).1 ∧
      SameFor client (l.acquire now client).2 (k.acquire now client).2 := by
  unfold Limiter.acquire
  simp only [same.bucket, same.burst, same.tokensAt, same.rate]
  split
  · refine ⟨rfl, rfl, rfl, ?_⟩
    rw [Table.get?_insert_self, Table.get?_insert_self]
  · refine ⟨rfl, rfl, rfl, ?_⟩
    rw [Table.get?_insert_self, Table.get?_insert_self]

theorem SameFor.acquire_other (same : SameFor client l k) (away : other ≠ client) (now : Nat) :
    SameFor client (l.acquire now other).2 k := by
  unfold Limiter.acquire
  dsimp only
  split
  · refine ⟨same.rate, same.burst, same.bucket.trans ?_⟩
    exact (Table.get?_insert_ne _ _ (Ne.symm away)).symm
  · refine ⟨same.rate, same.burst, same.bucket.trans ?_⟩
    exact (Table.get?_insert_ne _ _ (Ne.symm away)).symm

-- Whether a bucket is forgotten is decided by itself.
theorem SameFor.evict (same : SameFor client l k) (now idle : Nat) :
    SameFor client (l.evictIdle now idle).2 (k.evictIdle now idle).2 := by
  refine ⟨same.rate, same.burst, ?_⟩
  unfold evictIdle
  dsimp only
  rw [Table.get?_filter, Table.get?_filter, same.bucket, same.tokensAt, same.burst]

end Limiter

namespace Outbox

variable {o p : Outbox}

structure SameFor (client : String) (o p : Outbox) : Prop where
  capacity : p.capacity = o.capacity
  pending : p.pending = o.pending.filter (·.client == client)

-- There is room for a write wherever fewer writes wait than where there was room.
theorem sendAll_room {writes : List Write} (kept : (o.sendAll writes).dropped = o.dropped)
    (capacity : p.capacity = o.capacity) (fewer : p.pending.length ≤ o.pending.length) :
    p.sendAll writes = { p with pending := p.pending ++ writes } := by
  apply sendAll_kept
  induction writes generalizing o p with
  | nil => rfl
  | cons w rest ih =>
    have first := dropped_send o w
    have later := dropped_sendAll (o.send w) rest
    change ((o.send w).sendAll rest).dropped = o.dropped at kept
    change ((p.send w).sendAll rest).dropped = p.dropped
    have queued := send_kept (o := o) (w := w) (by omega)
    have room : o.pending.length < o.capacity := by
      unfold send submit at queued
      split at queued
      · assumption
      · have dropped := congrArg Outbox.dropped queued
        simp at dropped
    have queued' := send_room (o := p) (by omega) w
    rw [ih (o := o.send w) (by omega), queued']
    · rw [queued, queued']
      exact capacity
    · rw [queued, queued']
      simp only [List.length_append]
      omega

theorem SameFor.fewer (same : SameFor client o p) : p.pending.length ≤ o.pending.length := by
  rw [same.pending]
  exact List.length_filter_le _ _

theorem SameFor.sendAll (same : SameFor client o p) (writes : List Write)
    (kept : (o.sendAll writes).dropped = o.dropped) (own : ∀ w ∈ writes, w.client = client) :
    SameFor client (o.sendAll writes) (p.sendAll writes) := by
  rw [sendAll_kept kept, sendAll_room kept same.capacity same.fewer]
  refine ⟨same.capacity, ?_⟩
  have all : writes.filter (·.client == client) = writes :=
    List.filter_eq_self.2 fun w member => beq_iff_eq.2 (own w member)
  rw [List.filter_append, all, same.pending]

theorem SameFor.sendAll_other (same : SameFor client o p) (writes : List Write)
    (kept : (o.sendAll writes).dropped = o.dropped) (away : ∀ w ∈ writes, w.client ≠ client) :
    SameFor client (o.sendAll writes) p := by
  rw [sendAll_kept kept]
  refine ⟨same.capacity, ?_⟩
  have none : writes.filter (·.client == client) = [] :=
    List.filter_eq_nil_iff.2 fun w member => fun found => away w member (beq_iff_eq.1 found)
  rw [List.filter_append, none, List.append_nil, same.pending]

end Outbox

namespace Gate

variable {g h : Gate ν}

-- The same to a client: `h` has forgotten whatever was done on behalf of others.
structure SameFor (client : String) (g h : Gate ν) : Prop where
  now : h.now = g.now
  config : h.config = g.config
  policy : h.policy = g.policy
  upkeep : h.upkeep = g.upkeep
  granularity : h.tally.granularity = g.tally.granularity
  limiter : g.limiter.SameFor client h.limiter
  outbox : g.tally.outbox.SameFor client h.tally.outbox
  standing : h.bans.standing client = g.bans.standing client
  addressed : g.bans.Addressed

theorem SameFor.activeBan (same : SameFor client g h) : h.activeBan client = g.activeBan client := by
  change (h.bans.standing client).activeBan h.now = (g.bans.standing client).activeBan g.now
  rw [same.standing, same.now]

theorem SameFor.floor (same : SameFor client g h) : h.bans.floor client = g.bans.floor client :=
  congrArg Standing.floor same.standing

theorem SameFor.lookback (same : SameFor client g h) : h.lookback client = g.lookback client := by
  unfold Gate.lookback
  rw [same.floor, same.now, same.policy, same.granularity]

theorem SameFor.withBans {r q : Registry} (same : SameFor client g h) (standing : q.standing client = r.standing client)
    (addressed : r.Addressed) : SameFor client { g with bans := r } { h with bans := q } :=
  ⟨same.now, same.config, same.policy, same.upkeep, same.granularity, same.limiter, same.outbox, standing, addressed⟩

theorem SameFor.withLimiter {l k : Limiter ν} (same : SameFor client g h) (limiter : l.SameFor client k) :
    SameFor client { g with limiter := l } { h with limiter := k } :=
  ⟨same.now, same.config, same.policy, same.upkeep, same.granularity, limiter, same.outbox, same.standing, same.addressed⟩

theorem SameFor.setOutbox {o p : Outbox} (same : SameFor client g h) (outbox : o.SameFor client p) :
    SameFor client (g.setOutbox o) (h.setOutbox p) :=
  ⟨same.now, same.config, same.policy, same.upkeep, same.granularity, same.limiter, outbox, same.standing, same.addressed⟩

-- Nobody looks at the trail.
theorem SameFor.withTrail (same : SameFor client g h) (trail trail' : Trail) :
    SameFor client { g with trail } { h with trail := trail' } :=
  ⟨same.now, same.config, same.policy, same.upkeep, same.granularity, same.limiter, same.outbox, same.standing,
    same.addressed⟩

-- No write is dropped on the way from one gate to the other.
def Lossless (g g' : Gate ν) : Prop := g'.tally.outbox.dropped = g.tally.outbox.dropped

theorem SameFor.send {w : Write} (same : SameFor client g h) (kept : g.Lossless (g.send w)) (own : w.client = client) :
    SameFor client (g.send w) (h.send w) :=
  same.setOutbox (same.outbox.sendAll [w] kept fun _ member => List.mem_singleton.1 member ▸ own)

theorem SameFor.send_other {w : Write} (same : SameFor client g h) (kept : g.Lossless (g.send w))
    (away : w.client ≠ client) : SameFor client (g.send w) h :=
  same.setOutbox (p := h.tally.outbox)
    (same.outbox.sendAll_other [w] kept fun _ member => List.mem_singleton.1 member ▸ away)

section
variable (reason : String) (d : Duration) (failures : Nat) (actor : String)

theorem client_made (addressed : g.bans.Addressed) (client : String) :
    (Write.ban (g.bans.ban g.now client reason d failures actor).2.1).client = client :=
  Registry.address_banned (fun b active => addressed client b (Standing.activeBan_eq_some.1 active).1) ..

theorem SameFor.ban (same : SameFor client g h) (kept : g.Lossless (g.ban client reason d failures actor).2) :
    (h.ban client reason d failures actor).1 = (g.ban client reason d failures actor).1 ∧
      SameFor client (g.ban client reason d failures actor).2 (h.ban client reason d failures actor).2 := by
  cases sound : banFault? client reason d with
  | some fault =>
    rw [ban_of_fault reason d failures actor sound, ban_of_fault reason d failures actor sound]
    exact ⟨rfl, same⟩
  | none =>
    obtain ⟨event, banned⟩ := ban_of_sound (g := g) reason d failures actor sound
    obtain ⟨event', banned'⟩ := ban_of_sound (g := h) reason d failures actor sound
    have made : (h.bans.ban h.now client reason d failures actor).2.1 =
        (g.bans.ban g.now client reason d failures actor).2.1 := by
      rw [Registry.ban_made, Registry.ban_made, same.standing, same.now]
    have standing : (h.bans.ban h.now client reason d failures actor).2.2.standing client =
        (g.bans.ban g.now client reason d failures actor).2.2.standing client := by
      rw [Registry.standing_ban, Registry.standing_ban, if_pos rfl, if_pos rfl, same.standing, same.now]
    rw [banned] at kept
    rw [banned, banned', made]
    refine ⟨rfl, ?_⟩
    have changed := same.withBans standing (same.addressed.ban g.now client reason d failures actor)
    exact (changed.send kept (client_made reason d failures actor same.addressed client)).withTrail _ _

theorem SameFor.ban_other (same : SameFor client g h) (away : other ≠ client)
    (kept : g.Lossless (g.ban other reason d failures actor).2) :
    SameFor client (g.ban other reason d failures actor).2 h := by
  cases sound : banFault? other reason d with
  | some fault =>
    rw [ban_of_fault reason d failures actor sound]
    exact same
  | none =>
    obtain ⟨event, banned⟩ := ban_of_sound (g := g) reason d failures actor sound
    have standing : h.bans.standing client = (g.bans.ban g.now other reason d failures actor).2.2.standing client := by
      rw [Registry.standing_ban, if_neg (Ne.symm away), same.standing]
    rw [banned] at kept
    rw [banned]
    have changed := same.withBans standing (same.addressed.ban g.now other reason d failures actor)
    refine (changed.send_other kept ?_).withTrail _ h.trail
    rw [client_made reason d failures actor same.addressed other]
    exact away

end

section
variable (actor : String) (note : Option String)

theorem SameFor.unban (same : SameFor client g h) (kept : g.Lossless (g.unban client actor note).2) :
    (h.unban client actor note).1 = (g.unban client actor note).1 ∧
      SameFor client (g.unban client actor note).2 (h.unban client actor note).2 := by
  cases sound : Client.fault? client with
  | some fault =>
    rw [unban_of_fault actor note sound, unban_of_fault actor note sound]
    exact ⟨rfl, same⟩
  | none =>
    have standing : (h.bans.unban h.now client).2.standing client = (g.bans.unban g.now client).2.standing client := by
      rw [Registry.standing_unban, Registry.standing_unban, if_pos rfl, if_pos rfl, same.standing, same.now]
    have changed := same.withBans standing (same.addressed.unban g.now client)
    rcases unban_of_sound (g := g) actor note sound with ⟨free, unbanned⟩ | ⟨before, event, active, unbanned⟩
    · rcases unban_of_sound (g := h) actor note sound with ⟨_, unbanned'⟩ | ⟨before', _, active', _⟩
      · rw [unbanned, unbanned']
        exact ⟨rfl, changed⟩
      · rw [same.activeBan, free] at active'
        cases active'
    · rcases unban_of_sound (g := h) actor note sound with ⟨free', _⟩ | ⟨before', event', active', unbanned'⟩
      · rw [same.activeBan, active] at free'
        cases free'
      · rw [same.activeBan, active] at active'
        cases active'
        rw [unbanned] at kept
        rw [unbanned, unbanned', same.now]
        rw [same.now] at changed
        exact ⟨rfl, (changed.send kept rfl).withTrail _ _⟩

theorem SameFor.unban_other (same : SameFor client g h) (away : other ≠ client)
    (kept : g.Lossless (g.unban other actor note).2) : SameFor client (g.unban other actor note).2 h := by
  cases sound : Client.fault? other with
  | some fault =>
    rw [unban_of_fault actor note sound]
    exact same
  | none =>
    have standing : h.bans.standing client = (g.bans.unban g.now other).2.standing client := by
      rw [Registry.standing_unban, if_neg (Ne.symm away), same.standing]
    have changed := same.withBans standing (same.addressed.unban g.now other)
    rcases unban_of_sound (g := g) actor note sound with ⟨free, unbanned⟩ | ⟨before, event, active, unbanned⟩
    · rw [unbanned]
      exact changed
    · rw [unbanned] at kept
      rw [unbanned]
      exact (changed.send_other kept away).withTrail _ h.trail

end

theorem SameFor.expire (same : SameFor client g h) : SameFor client g.expire.2 h.expire.2 := by
  have standing : (h.bans.expire h.now).2.standing client = (g.bans.expire g.now).2.standing client := by
    rw [Registry.standing_expire, Registry.standing_expire, same.standing, same.now]
  exact same.withBans standing (same.addressed.expire g.now)

theorem SameFor.pruneFloors (same : SameFor client g h) (before : Nat) :
    SameFor client (g.pruneFloors before).2 (h.pruneFloors before).2 := by
  have standing : (h.bans.pruneFloors before).2.standing client = (g.bans.pruneFloors before).2.standing client := by
    rw [Registry.standing_pruneFloors, Registry.standing_pruneFloors, same.standing]
  exact same.withBans standing (same.addressed.pruneFloors before)

theorem SameFor.merge (same : SameFor client g h) (now : Nat) {all own : List Ban}
    (rows : all.filter (·.isOf client) = own.filter (·.isOf client)) :
    SameFor client (g.merge now all).2 (h.merge now own).2 := by
  have standing : (h.bans.merge now own).2.standing client = (g.bans.merge now all).2.standing client := by
    rw [Registry.standing_merge, Registry.standing_merge, same.standing]
    exact congrArg (List.foldl (Standing.take now) _) rows.symm
  exact same.withBans standing (same.addressed.merge now all)

theorem SameFor.clock (same : SameFor client g h) (reading : Nat) :
    SameFor client { g with now := reading } { h with now := reading } :=
  ⟨rfl, same.config, same.policy, same.upkeep, same.granularity, same.limiter, same.outbox, same.standing, same.addressed⟩

theorem SameFor.withUpkeep (same : SameFor client g h) {u u' : Upkeep} (upkeep : u' = u) :
    SameFor client { g with upkeep := u } { h with upkeep := u' } :=
  ⟨same.now, same.config, same.policy, upkeep, same.granularity, same.limiter, same.outbox, same.standing, same.addressed⟩

variable [Quantity ν]

theorem SameFor.reconfigure (same : SameFor client g h) (config : Config) :
    SameFor client (g.reconfigure config).2 (h.reconfigure config).2 := by
  rw [Gate.reconfigure_eq, Gate.reconfigure_eq]
  cases config.fault? with
  | some fault => exact same
  | none =>
    cases Policy.ofConfig config with
    | error fault => exact same
    | ok policy =>
      exact ⟨same.now, rfl, rfl, same.upkeep, same.granularity, ⟨rfl, rfl, same.limiter.bucket⟩, same.outbox,
        same.standing, same.addressed⟩

theorem SameFor.acquire (same : SameFor client g h) : (h.acquire client).1 = (g.acquire client).1 ∧
    SameFor client (g.acquire client).2 (h.acquire client).2 := by
  obtain ⟨decision, limiter⟩ := same.limiter.acquire g.now
  have here : h.limiter.acquire h.now client = h.limiter.acquire g.now client := by rw [same.now]
  rw [← here] at decision limiter
  exact ⟨decision, same.withLimiter limiter⟩

theorem SameFor.acquire_other (same : SameFor client g h) (away : other ≠ client) :
    SameFor client (g.acquire other).2 h :=
  same.withLimiter (k := h.limiter) (same.limiter.acquire_other away g.now)

omit [Quantity ν] in
theorem SameFor.count (same : SameFor client g h) (endpoint : String) {outcome : Outcome}
    (kept : g.Lossless (g.count client endpoint outcome)) :
    SameFor client (g.count client endpoint outcome) (h.count client endpoint outcome) := by
  have here : h.count client endpoint outcome =
      h.send (.window client endpoint (windowStart g.now g.tally.granularity) outcome) := by
    rw [← same.now, ← same.granularity]
    rfl
  rw [here]
  exact same.send kept rfl

omit [Quantity ν] in
theorem SameFor.count_other (same : SameFor client g h) (away : other ≠ client) (endpoint : String) {outcome : Outcome}
    (kept : g.Lossless (g.count other endpoint outcome)) : SameFor client (g.count other endpoint outcome) h :=
  same.send_other kept away

-- A request is screened by the ban and the bucket of its client, and counted for it.
theorem SameFor.screen (same : SameFor client g h) (endpoint : String) (critical : Bool)
    (kept : g.Lossless (g.screen client endpoint critical).2) :
    (h.screen client endpoint critical).1 = (g.screen client endpoint critical).1 ∧
      SameFor client (g.screen client endpoint critical).2 (h.screen client endpoint critical).2 := by
  have ban := same.activeBan
  cases active : g.activeBan client with
  | some b =>
    rw [active] at ban
    rw [screen_of_active active, screen_of_active ban, same.now]
    exact ⟨rfl, same⟩
  | none =>
    obtain ⟨decision, acquired⟩ := same.acquire
    rw [active] at ban
    rw [screen_of_free active] at kept ⊢
    rw [screen_of_free ban, decision]
    cases taken : (g.acquire client).1 with
    | denied wait =>
      rw [taken] at kept
      exact ⟨rfl, acquired.count endpoint kept⟩
    | allowed left =>
      rw [taken] at kept
      cases critical with
      | true => exact ⟨rfl, acquired⟩
      | false => exact ⟨rfl, acquired.count endpoint kept⟩

theorem SameFor.screen_other (same : SameFor client g h) (away : other ≠ client) (endpoint : String) (critical : Bool)
    (kept : g.Lossless (g.screen other endpoint critical).2) :
    SameFor client (g.screen other endpoint critical).2 h := by
  cases active : g.activeBan other with
  | some b =>
    rw [screen_of_active active]
    exact same
  | none =>
    have acquired := same.acquire_other away
    rw [screen_of_free active] at kept ⊢
    cases taken : (g.acquire other).1 with
    | denied wait =>
      rw [taken] at kept
      exact acquired.count_other away endpoint kept
    | allowed left =>
      rw [taken] at kept
      cases critical with
      | true => exact acquired
      | false => exact acquired.count_other away endpoint kept

-- Only a request that is answered at once is counted at once.
theorem lossless_undecided {g' : Gate ν} {endpoint : String} {critical : Bool}
    (undecided : g.screen client endpoint critical = (.undecided, g')) : g.Lossless g' := by
  have screened := g.screen_cases client endpoint critical
  rw [undecided] at screened
  cases screened with
  | undecided limiter free severe => rfl

section
omit [Quantity ν]

theorem SameFor.judge (same : SameFor client g h) (endpoint : String) {reading : Except StoreError Counts}
    (kept : g.Lossless (g.judge client endpoint reading).2) :
    (h.judge client endpoint reading).1 = (g.judge client endpoint reading).1 ∧
      SameFor client (g.judge client endpoint reading).2 (h.judge client endpoint reading).2 := by
  cases reading with
  | error e => exact ⟨rfl, same⟩
  | ok counts =>
    have policy := same.policy
    cases reached : g.policy.verdict counts.failures g.policy.window with
    | none =>
      rw [judge_of_none reached, judge_of_none (by rw [policy]; exact reached)]
      exact ⟨rfl, same⟩
    | some tier =>
      rw [judge_of_verdict reached] at kept ⊢
      rw [judge_of_verdict (by rw [policy]; exact reached), policy]
      have banned := same.ban g.policy.reason tier.duration (toHalf counts.failures) systemActor
      cases made : g.ban client g.policy.reason tier.duration (toHalf counts.failures) systemActor with
      | mk answer g' =>
        cases made' : h.ban client g.policy.reason tier.duration (toHalf counts.failures) systemActor with
        | mk answer' h' =>
          rw [made] at kept
          rw [made, made'] at banned
          cases answer with
          | error e =>
            obtain ⟨equal, after⟩ := banned kept
            cases equal
            exact ⟨rfl, after⟩
          | ok b =>
            obtain ⟨equal, after⟩ := banned kept
            cases equal
            refine ⟨?_, after.withTrail _ _⟩
            have now : h'.now = g'.now := after.now
            exact congrArg (fun now => Admission.banned (b.timeLeft now) b.reason) now

theorem SameFor.judge_other (same : SameFor client g h) (away : other ≠ client) {endpoint : String}
    {reading : Except StoreError Counts} (kept : g.Lossless (g.judge other endpoint reading).2) :
    SameFor client (g.judge other endpoint reading).2 h := by
  have judged := g.judge_cases other endpoint reading
  generalize g.judge other endpoint reading = result at judged kept
  cases judged with
  | admitted => exact same
  | banned reached banned event =>
    have after := same.ban_other _ _ _ _ away (by rw [banned]; exact kept)
    rw [banned] at after
    exact after.withTrail _ h.trail

end

end Gate

namespace Command

variable [Quantity ν] {c : Command} {g h : Gate ν}

omit [Quantity ν] in
theorem client_writes (reports : c.reports = true) (g : Gate ν) : ∀ w ∈ c.writes g, c.client? = some w.client := by
  have told {client : String} {all : List Write} (own : ∀ w ∈ all, w.client = client) :
      ∀ w ∈ sound client all, some client = some w.client := by
    unfold Command.sound
    intro w member
    split at member
    · cases member
    · exact congrArg some (own w member).symm
  cases c with
  | login | refused | outcome => exact told (by simp [Write.client])
  | record | append => simp [writes, client?, Write.client]
  | _ => cases reports

end Command

end Turnstile
