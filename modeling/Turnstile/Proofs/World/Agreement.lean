import Turnstile.Proofs.Gate.Effects
import Turnstile.Proofs.Store.OpenRows
import Turnstile.Proofs.World.History
namespace Turnstile

namespace Memory

def applyAll (m : Memory) (writes : List Write) : Memory := writes.foldl (fun m write => (m.answer write.call).2) m

theorem applyAll_append (m : Memory) (writes more : List Write) :
    m.applyAll (writes ++ more) = (m.applyAll writes).applyAll more := List.foldl_append

theorem bans_applyAll {writes : List Write} (plain : ∀ write ∈ writes, write.isPlain) (m : Memory) :
    (m.applyAll writes).bans = m.bans := by
  induction writes generalizing m with
  | nil => rfl
  | cons first rest ih =>
    have kept : (m.answer first.call).2.bans = m.bans := by
      have simple := plain first List.mem_cons_self
      cases first with
      | window | attempt => rfl
      | ban | release => cases simple
    exact (ih (fun write member => plain write (List.mem_cons_of_mem _ member)) _).trans kept

end Memory

namespace World

open Memory (openRows)

variable {ν : Type} {w u : World ν} {m : Memory} {client : String}

-- What the gate knows of a client and its open rows say the same.
structure Agrees (bans : List Ban) (now : Nat) (client : String) (active : Option Ban) : Prop where
  once : (openRows client bans).length ≤ 1
  same : active.toList = (openRows client bans).filter (now < ·.bannedUntil)

structure Agreement (m : Memory) (w : World ν) : Prop where
  tables : w.backend.store = .memory m
  addressed : w.gate.bans.Addressed
  agrees : ∀ client, Agrees (m.applyAll w.pending).bans w.gate.now client (w.gate.activeBan client)

-- Rows that no longer count may be closed.
theorem Agrees.sweep {bans rest : List Ban} {now : Nat} {active : Option Ban} (agrees : Agrees bans now client active)
    (swept : openRows client rest = (openRows client bans).filter (now < ·.bannedUntil)) :
    Agrees rest now client active := by
  refine ⟨?_, ?_⟩
  · rw [swept]
    exact Nat.le_trans (List.length_filter_le ..) agrees.once
  · rw [swept, List.filter_filter]
    simp only [Bool.and_self]
    exact agrees.same

theorem Agrees.kept {bans rest : List Ban} {now : Nat} {active : Option Ban} (agrees : Agrees bans now client active)
    (kept : openRows client rest = openRows client bans) : Agrees rest now client active :=
  ⟨kept ▸ agrees.once, kept ▸ agrees.same⟩

theorem Agrees.put {bans : List Ban} {now : Nat} {active : Option Ban} {made : Ban}
    (agrees : Agrees bans now made.address active) (unreleased : made.releasedAt = none) (live : now < made.bannedUntil) :
    Agrees (Memory.putBan made bans) now made.address (some made) := by
  have only := Memory.openRows_putBan_self bans agrees.once
  rw [if_pos unreleased] at only
  refine ⟨?_, ?_⟩
  · rw [only]
    exact Nat.le_refl _
  · rw [only, List.filter_cons, if_pos (decide_eq_true live)]
    rfl

theorem Agrees.release {bans : List Ban} {now reading : Nat} {active : Option Ban} {actor : String} {automatic : Bool}
    (agrees : Agrees bans now client active) :
    Agrees (Memory.releaseFirst client reading actor automatic bans).2 now client none := by
  have closed : openRows client (Memory.releaseFirst client reading actor automatic bans).2 = [] := by
    rw [Memory.openRows_releaseFirst_self]
    refine List.length_eq_zero_iff.1 ?_
    have once := agrees.once
    rw [List.length_tail]
    omega
  refine ⟨?_, ?_⟩
  · rw [closed]
    exact Nat.zero_le _
  · rw [closed]
    rfl

-- Time ends bans here and there alike.
theorem Agrees.later {bans : List Ban} {s : Standing} {now next : Nat} (agrees : Agrees bans now client (s.activeBan now))
    (forward : now ≤ next) : Agrees bans next client (s.activeBan next) := by
  refine ⟨agrees.once, ?_⟩
  rw [s.activeBan_later forward, Option.toList_filter, agrees.same, List.filter_filter]
  refine List.filter_congr fun row _ => ?_
  rw [Bool.eq_iff_iff]
  simp only [Bool.and_eq_true, decide_eq_true_eq]
  omega

theorem Agreement.deliver (agreement : Agreement m w) (healthy : w.backend.Healthy) :
    ∃ m', Agreement m' w.deliver ∧ w.deliver.backend.Healthy := by
  cases queued : w.pending with
  | nil =>
    rw [deliver_of_nil queued]
    exact ⟨m, agreement, healthy⟩
  | cons first rest =>
    obtain ⟨backend, delivered, stays, changed⟩ := deliver_healthy healthy queued
      (agreement.tables ▸ Store.answer_memory first.call m)
    rw [delivered]
    refine ⟨_, ⟨changed, agreement.addressed, fun client => ?_⟩, stays⟩
    have before := agreement.agrees client
    rw [queued] at before
    exact before

theorem Agreement.deliverMany (agreement : ∃ m, Agreement m w ∧ w.backend.Healthy) (n : Nat) :
    ∃ m, Agreement m (deliverMany n w) := by
  obtain ⟨m, after, _⟩ := deliverMany_keeps (P := fun w => ∃ m, Agreement m w ∧ w.backend.Healthy)
    (fun w before => before.elim fun m both => by
      obtain ⟨m', after, healthy⟩ := both.1.deliver both.2
      exact ⟨m', after, healthy⟩) n agreement
  exact ⟨m, after⟩

theorem Agreement.kept {m' : Memory} (agreement : Agreement m w) (tables : u.backend.store = .memory m')
    (bans : u.gate.bans = w.gate.bans) (now : u.gate.now = w.gate.now)
    (rows : ∀ client, openRows client (m'.applyAll u.pending).bans = openRows client (m.applyAll w.pending).bans) :
    Agreement m' u where
  tables := tables
  addressed := bans ▸ agreement.addressed
  agrees client := by
    have before := (agreement.agrees client).kept (rows client)
    unfold Gate.activeBan at before ⊢
    rw [bans, now]
    exact before

-- The registry changes, but knows the same bans.
theorem Agreement.withBans (agreement : Agreement m w) (bans : Registry) (addressed : bans.Addressed)
    (same : ∀ client, bans.activeBan w.gate.now client = w.gate.activeBan client) :
    Agreement m { w with gate := { w.gate with bans } } where
  tables := agreement.tables
  addressed := addressed
  agrees client := by
    have before := agreement.agrees client
    rw [← same client] at before
    exact before

-- While a command runs, only writes about other things than bans are queued.
structure Undisturbed (m : Memory) (w : World ν) : Prop where
  agreement : Agreement m w
  healthy : w.backend.Healthy
  plain : ∀ write ∈ w.pending, write.isPlain

theorem Undisturbed.agrees (before : Undisturbed m w) (client : String) :
    Agrees m.bans w.gate.now client (w.gate.activeBan client) := by
  have same := before.agreement.agrees client
  rwa [Memory.bans_applyAll before.plain] at same

-- A call on the store that closes only rows which no longer count.
theorem Undisturbed.call (before : Undisturbed m w) {g : Gate ν} (bans : g.bans = w.gate.bans)
    (now : g.now = w.gate.now) (outbox : g.tally.outbox = w.gate.tally.outbox) (c : Call)
    (rows : ∀ client active, Agrees m.bans w.gate.now client active → Agrees (m.answer c).2.bans w.gate.now client active) :
    Undisturbed (m.answer c).2 { w with gate := g, backend := (w.backend.finish c none).2 } := by
  have plain : ∀ write ∈ g.tally.outbox.pending, write.isPlain := by
    rw [outbox]
    exact before.plain
  rw [before.healthy.finish (before.agreement.tables ▸ Store.answer_memory c m)]
  refine ⟨⟨rfl, bans ▸ before.agreement.addressed, fun client => ?_⟩, before.healthy.withStore _, plain⟩
  show Agrees ((m.answer c).2.applyAll g.tally.outbox.pending).bans g.now client (g.bans.activeBan g.now client)
  rw [Memory.bans_applyAll plain, now, bans]
  exact rows client _ (before.agrees client)

-- The store lists what the gate knows.
theorem Undisturbed.listed (before : Undisturbed m w) {rows : List Ban} {backend : Backend}
    (answered : w.backend.finish (.active w.gate.now) none = (.ok rows, backend)) (client : String) :
    rows.filter (·.address == client) = (w.gate.activeBan client).toList := by
  have told := Backend.finish_ok answered
  rw [before.agreement.tables, Store.answer_memory] at told
  have same : m.bans.filter (·.isActive w.gate.now) = rows := Except.ok.inj (Prod.mk.inj told).1
  rw [← same, Memory.filter_active, (before.agrees client).same]

theorem Undisturbed.withBans (before : Undisturbed m w) (bans : Registry) (addressed : bans.Addressed)
    (same : ∀ client, bans.activeBan w.gate.now client = w.gate.activeBan client) :
    Undisturbed m { w with gate := { w.gate with bans } } :=
  ⟨before.agreement.withBans bans addressed same, before.healthy, before.plain⟩

theorem Undisturbed.deliver (before : Undisturbed m w) : ∃ m', Undisturbed m' w.deliver := by
  obtain ⟨m', agreement, healthy⟩ := before.agreement.deliver before.healthy
  refine ⟨m', agreement, healthy, ?_⟩
  cases queued : w.pending with
  | nil =>
    rw [deliver_of_nil queued]
    exact before.plain
  | cons first rest =>
    rw [pending_deliver queued]
    exact fun write member => before.plain write (queued ▸ List.mem_cons_of_mem _ member)

theorem Undisturbed.send (before : Undisturbed m w) {g : Gate ν} (bans : g.bans = w.gate.bans)
    (now : g.now = w.gate.now) {write : Write} (simple : write.isPlain)
    (queued : g.tally.outbox = w.gate.tally.outbox.send write) : Undisturbed m { w with gate := g } := by
  obtain ⟨taken, short, pending⟩ := Outbox.pending_send w.gate.tally.outbox write
  have after : ({ w with gate := g } : World ν).pending = w.pending ++ taken := by
    unfold World.pending
    rw [queued, pending]
  have plain : ∀ write ∈ w.pending ++ taken, write.isPlain := by
    intro other member
    rcases List.mem_append.1 member with old | new
    · exact before.plain other old
    · rw [List.mem_singleton.1 (short.subset new)]
      exact simple
  refine ⟨before.agreement.kept before.agreement.tables bans now fun client => ?_, before.healthy, after ▸ plain⟩
  rw [after, Memory.bans_applyAll plain, Memory.bans_applyAll before.plain]

variable [Quantity ν] {sweeping : Prop}

theorem Act.undisturbed (act : Act sweeping w u) (before : ∃ m, Undisturbed m w) : ∃ m, Undisturbed m u := by
  obtain ⟨m, before⟩ := before
  have agreement := before.agreement
  cases act with
  | arrive =>
    exact ⟨m, agreement.kept ((Backend.store_arrive w.backend).trans agreement.tables) rfl rfl fun _ => rfl,
      before.healthy.arrive.2, before.plain⟩
  | deliver => exact before.deliver
  | @reload rows backend answered =>
    refine ⟨m, before.withBans (w.gate.bans.merge w.gate.now rows).2 (agreement.addressed.merge _ rows) fun client => ?_⟩
    rw [Registry.activeBan_standing, Registry.standing_merge, before.listed answered]
    exact Standing.takes_known _ _
  | expire =>
    exact ⟨m, before.withBans (w.gate.bans.expire w.gate.now).2 (agreement.addressed.expire _)
      (w.gate.bans.activeBan_expire w.gate.now)⟩
  | prune =>
    exact ⟨m, before.withBans (w.gate.bans.pruneFloors _).2 (agreement.addressed.pruneFloors _)
      (w.gate.bans.activeBan_pruneFloors _ w.gate.now)⟩
  | limit | upkeep => exact ⟨m, agreement.kept agreement.tables rfl rfl fun _ => rfl, before.healthy, before.plain⟩
  | @count client endpoint outcome quiet =>
    have simple : (Write.window client endpoint (windowStart w.gate.now w.gate.tally.granularity) outcome).isPlain := rfl
    exact ⟨m, before.send rfl rfl simple rfl⟩
  | @releaseExpired released backend under answered =>
    have after : backend = (w.backend.finish (.releaseExpired w.gate.now) none).2 := by rw [answered]
    rw [after]
    exact ⟨_, before.call (g := w.gate.reportReleased released) rfl rfl rfl (.releaseExpired w.gate.now) fun client active agrees =>
      agrees.sweep (Memory.openRows_expire ..)⟩
  | archive => exact ⟨_, before.call rfl rfl rfl (.archive _) fun client active agrees => agrees⟩
  | purgeAttempts cutoff => exact ⟨_, before.call rfl rfl rfl (.purgeAttempts _) fun client active agrees => agrees⟩
  | purgeBans cutoff =>
    exact ⟨_, before.call rfl rfl rfl (.purgeBans _) fun client active agrees => agrees.kept (Memory.openRows_purge ..)⟩

theorem Acts.undisturbed (acts : Acts sweeping w u) (before : ∃ m, Undisturbed m w) : ∃ m, Undisturbed m u :=
  acts.keeps (fun _ _ act before => act.undisturbed before) before

-- Nothing that was dropped comes back.
theorem Act.dropped (act : Act sweeping w u) : w.gate.tally.outbox.dropped ≤ u.gate.tally.outbox.dropped := by
  cases act with
  | deliver =>
    have told := deliver_cases w
    generalize w.deliver = after at told
    cases told <;> exact Nat.le_refl _
  | count => exact Outbox.dropped_send ..
  | _ => exact Nat.le_refl _

theorem Acts.dropped (acts : Acts sweeping w u) : w.gate.tally.outbox.dropped ≤ u.gate.tally.outbox.dropped :=
  acts.keeps (I := fun v => w.gate.tally.outbox.dropped ≤ v.gate.tally.outbox.dropped)
    (fun _ _ act before => Nat.le_trans before act.dropped) (Nat.le_refl _)

section

omit [Quantity ν]

variable (agreement : Agreement m w)

include agreement

theorem Agreement.ban (c reason : String) (d : Duration) (failures : Nat) (actor : String)
    (lossless : (w.gate.ban c reason d failures actor).2.tally.outbox.dropped = w.gate.tally.outbox.dropped) :
    Agreement m { w with gate := (w.gate.ban c reason d failures actor).2 } := by
  have others (client : String) (away : client ≠ c) := ban_other away w.gate reason d failures actor
  have banned := w.gate.ban_cases c reason d failures actor
  generalize w.gate.ban c reason d failures actor = result at banned lossless others
  cases banned with
  | refused => exact agreement
  | made sound event =>
    obtain ⟨unreleased, live, _⟩ := Registry.banned_live (w.gate.bans.standing c) w.gate.now c reason d failures actor
    have own : (w.gate.bans.ban w.gate.now c reason d failures actor).2.1.address = c :=
      Registry.address_banned (fun b active => agreement.addressed c b (Standing.activeBan_eq_some.1 active).1) ..
    have queue := Outbox.send_kept lossless
    refine ⟨agreement.tables, agreement.addressed.ban _ _ _ _ _ _, fun client => ?_⟩
    show Agrees (m.applyAll (w.gate.tally.outbox.send (.ban _)).pending).bans w.gate.now client _
    rw [queue, Memory.applyAll_append]
    show Agrees (Memory.putBan _ (m.applyAll w.pending).bans) w.gate.now client _
    have before := agreement.agrees client
    by_cases same : client = c
    · rw [same, ← own] at before
      have after := before.put unreleased live
      rw [own] at after
      subst same
      have blocks : (w.gate.bans.ban w.gate.now client reason d failures actor).2.2.activeBan w.gate.now client =
          some (w.gate.bans.ban w.gate.now client reason d failures actor).2.1 := by
        rw [Registry.activeBan_standing, Registry.standing_ban, if_pos rfl]
        exact Standing.activeBan_eq_some.2 ⟨rfl, unreleased, live⟩
      rw [← blocks] at after
      exact after
    · have still := others client same
      change (w.gate.bans.ban w.gate.now c reason d failures actor).2.2.activeBan w.gate.now client = _ at still
      rw [← still] at before
      exact before.kept (Memory.openRows_putBan_other (fun equal => same (equal.symm.trans own)) _)

theorem Agreement.unban (c actor : String) (note : Option String)
    (lossless : (w.gate.unban c actor note).2.tally.outbox.dropped = w.gate.tally.outbox.dropped) :
    Agreement m { w with gate := (w.gate.unban c actor note).2 } := by
  have unbanned := w.gate.unban_cases c actor note
  generalize w.gate.unban c actor note = result at unbanned lossless
  cases unbanned with
  | refused => exact agreement
  | idle free =>
    refine agreement.withBans (w.gate.bans.unban w.gate.now c).2 (agreement.addressed.unban _ _) fun client => ?_
    rw [Registry.activeBan_standing, Registry.standing_unban]
    split
    · rename_i same
      subst same
      rw [show (w.gate.bans.standing client).activeBan w.gate.now = none from free]
      exact free.symm
    · rfl
  | ended active event =>
    have queue := Outbox.send_kept lossless
    refine ⟨agreement.tables, agreement.addressed.unban _ _, fun client => ?_⟩
    show Agrees (m.applyAll (w.gate.tally.outbox.send (.release ..)).pending).bans w.gate.now client
      ((w.gate.bans.unban w.gate.now c).2.activeBan w.gate.now client)
    rw [queue, Memory.applyAll_append, Registry.activeBan_standing, Registry.standing_unban]
    show Agrees (Memory.releaseFirst c w.gate.now actor false (m.applyAll w.pending).bans).2 w.gate.now client _
    have before := agreement.agrees client
    split
    · rename_i same
      subst same
      rw [show (w.gate.bans.standing client).activeBan w.gate.now = _ from active]
      exact before.release
    · rename_i other
      exact before.kept (Memory.openRows_releaseFirst_other (Ne.symm other) _)

end

theorem Agreement.update (agreement : Agreement m w) {c : Command} (plain : c.asks = false)
    (forward : w.gate.now ≤ (c.update w.gate).now)
    (lossless : (c.update w.gate).tally.outbox.dropped = w.gate.tally.outbox.dropped) :
    Agreement m { w with gate := c.update w.gate } := by
  cases quiet : c.isQuiet with
  | true =>
    obtain ⟨bans, now⟩ := Command.quiet_update quiet w.gate
    refine agreement.kept agreement.tables bans now fun client => ?_
    rw [pending_update plain lossless, Memory.applyAll_append, Memory.bans_applyAll (Command.plain_writes quiet w.gate)]
  | false =>
    cases c with
    | ban a b d n e => exact agreement.ban a b d n e lossless
    | unban c actor note => exact agreement.unban c actor note lossless
    | release c actor reason => exact agreement.unban c actor (some reason) lossless
    | expire =>
      exact agreement.withBans (w.gate.bans.expire w.gate.now).2 (agreement.addressed.expire _)
        (w.gate.bans.activeBan_expire w.gate.now)
    | prune before =>
      exact agreement.withBans (w.gate.bans.pruneFloors before).2 (agreement.addressed.pruneFloors _)
        (w.gate.bans.activeBan_pruneFloors before w.gate.now)
    | clock reading =>
      refine ⟨agreement.tables, agreement.addressed, fun client => ?_⟩
      have before : Agrees (m.applyAll w.pending).bans w.gate.now client
        ((w.gate.bans.standing client).activeBan w.gate.now) := agreement.agrees client
      exact before.later forward
    | _ => cases quiet

end World

end Turnstile
