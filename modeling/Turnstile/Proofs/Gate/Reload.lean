import Mathlib.Data.List.Nodup
import Turnstile.Proofs.Registry.Listing
import Turnstile.Proofs.Session.Rest
import Turnstile.Proofs.World.Agreement
namespace Turnstile

def Move.isCommand : Move → Bool
  | .command .. => true
  | _ => false

variable {ν : Type} [Quantity ν]

-- Nothing fails, and what was queued has been applied before the next command.
structure Visit.Applied (v : Visit ν) : Prop where
  onward : v.Onward
  intact : v.Intact
  drained : v.move.isCommand → v.world.pending = []

instance (v : Visit ν) : Decidable v.Applied :=
  decidable_of_iff (v.Onward ∧ v.Intact ∧ (v.move.isCommand → v.world.pending = []))
    ⟨fun ⟨onward, intact, drained⟩ => ⟨onward, intact, drained⟩, fun ⟨onward, intact, drained⟩ => ⟨onward, intact, drained⟩⟩

namespace World

variable {w u : World ν} {m : Memory}

theorem Agreement.entered {client endpoint : String} {critical : Bool} {answer : Except GateError Admission}
    (entered : Entered w client endpoint critical (answer, u)) (before : ∃ m, Undisturbed m w)
    (lossless : u.gate.tally.outbox.dropped = w.gate.tally.outbox.dropped) : ∃ m, Agreement m u := by
  obtain ⟨v, acts, _, same⟩ := entered.split
  obtain ⟨m, after⟩ := acts.undisturbed before
  rcases same with rfl | ⟨reason, d, failures, made, g', event, free, ban, rfl⟩
  · exact ⟨m, after.agreement⟩
  · have sooner := acts.dropped
    have later : v.gate.tally.outbox.dropped ≤ g'.tally.outbox.dropped := by
      have cases := v.gate.ban_cases client reason d failures systemActor
      rw [ban] at cases
      cases cases with
      | made => exact Outbox.dropped_send ..
    change g'.tally.outbox.dropped = _ at lossless
    have kept : g'.tally.outbox.dropped = v.gate.tally.outbox.dropped := by omega
    have banned := after.agreement.ban client reason d failures systemActor (by rw [ban]; exact kept)
    rw [ban] at banned
    exact ⟨m, banned.kept banned.tables rfl rfl fun _ => rfl⟩

theorem agreement_step {m : Move} (applied : (⟨w, m⟩ : Visit ν).Applied) (before : ∃ t, Agreement t w) :
    ∃ t, Agreement t (w.step m).2 := by
  obtain ⟨⟨own, forward⟩, ⟨healthy, lossless⟩, drained⟩ := applied
  change w.gate.now ≤ (w.step m).2.gate.now at forward
  change (w.step m).2.gate.tally.outbox.dropped = w.gate.tally.outbox.dropped at lossless
  obtain ⟨t, agreement⟩ := before
  have delivered (n : Nat) : ∃ t, Agreement t (deliverMany n w) := Agreement.deliverMany ⟨t, agreement, healthy⟩ n
  have handed {u : World ν} (after : ∃ t, Agreement t u) : ∃ t, Agreement t u.handOver := by
    obtain ⟨t, there⟩ := after
    exact ⟨t, there.kept there.tables rfl rfl fun _ => rfl⟩
  cases m with
  | command c meanwhile =>
    have calm : Undisturbed t w := ⟨agreement, healthy, by rw [drained rfl]; exact nofun⟩
    have told := moved_command c meanwhile w
    generalize (w.step (.command c meanwhile)).2 = u at told forward lossless
    cases told with
    | plain same => exact ⟨t, agreement.update (Move.plain_asks same).1 forward lossless⟩
    | idle => exact ⟨t, agreement⟩
    | entered other enters entered => exact Agreement.entered entered ⟨t, calm⟩ lossless
    | acted other enters acts =>
      obtain ⟨t', after⟩ := acts.undisturbed ⟨t, calm⟩
      exact ⟨t', after.agreement⟩
    | flushed other n => exact handed (delivered n)
    | weather other kept => exact ⟨t, agreement.kept (kept.trans agreement.tables) rfl rfl fun _ => rfl⟩
  | deliver => exact delivered 1
  | handOver => exact handed ⟨t, agreement⟩
  | flush => exact handed (delivered _)
  | faults | reach | slow => exact ⟨t, agreement.kept agreement.tables rfl rfl fun _ => rfl⟩
  | call => cases own
  | restart => cases own

theorem agreement_run (bans : w.gate.bans = .empty) (pending : w.pending = []) (empty : w.backend.store = .memory .empty)
    (moves : List Move) (applied : ∀ v ∈ w.visits moves, v.Applied) : ∃ t, Agreement t (w.run moves) := by
  refine run_keeps (I := fun _ u => ∃ t, Agreement t u) ⟨.empty, empty, bans ▸ Registry.addressed_empty, ?_⟩
    (fun past u m before applied => agreement_step applied before) moves applied
  intro client
  rw [pending]
  unfold Gate.activeBan
  rw [bans]
  exact ⟨Nat.zero_le _, rfl⟩

omit [Quantity ν] in
theorem Undisturbed.answered (calm : Undisturbed m w) : w.backend.store.answer (.active w.gate.now) =
    (.ok (m.bans.filter (·.isActive w.gate.now)), w.backend.store) := by
  rw [calm.agreement.tables]
  rfl

omit [Quantity ν] in
theorem Undisturbed.rows (calm : Undisturbed m w) (client : String) :
    (m.bans.filter (·.isActive w.gate.now)).filter (·.address == client) = (w.gate.activeBan client).toList := by
  rw [Memory.filter_active, (calm.agrees client).same]

omit [Quantity ν] in
theorem Undisturbed.listed_iff (calm : Undisturbed m w) {b : Ban} :
    b ∈ m.bans.filter (·.isActive w.gate.now) ↔ w.gate.activeBan b.address = some b := by
  have own := calm.rows b.address
  rw [← Option.mem_toList, ← own]
  constructor
  · exact fun member => List.mem_filter.2 ⟨member, beq_self_eq_true b.address⟩
  · exact fun member => (List.mem_filter.1 member).1

omit [Quantity ν] in
theorem Undisturbed.perm (calm : Undisturbed m w) :
    w.gate.bannedClients.Perm (m.bans.filter (·.isActive w.gate.now)) := by
  have addressed := calm.agreement.addressed
  have distinct : (m.bans.filter (·.isActive w.gate.now)).Nodup := by
    refine List.nodup_iff_count_le_one.2 fun b => ?_
    have own : (b.address == b.address) = true := beq_self_eq_true _
    rw [← List.count_filter (p := (·.address == b.address)) own, calm.rows b.address]
    refine Nat.le_trans List.count_le_length ?_
    cases w.gate.activeBan b.address with
    | none => exact Nat.zero_le _
    | some c => exact Nat.le_refl _
  refine (List.perm_ext_iff_of_nodup (Registry.nodup_list addressed _) distinct).2 fun b => ?_
  rw [calm.listed_iff]
  exact Registry.mem_list addressed

theorem Undisturbed.reload (calm : Undisturbed m w) (drained : w.pending = []) (meanwhile : List Nat) :
    (w.step (.command .restore meanwhile)).1 = .restored (.ok 0) ∧
      ∀ client, (w.step (.command .restore meanwhile)).2.gate.activeBan client = w.gate.activeBan client := by
  obtain ⟨backend, _, _, restored⟩ := restore_healthy meanwhile calm.healthy (.inl drained) calm.answered
  rw [restored]
  constructor
  · have nothing : (w.gate.bans.merge w.gate.now (m.bans.filter (·.isActive w.gate.now))).1 = 0 :=
      Registry.mergeRows_known _ fun row member => calm.listed_iff.1 member
    exact congrArg (fun n => Reply.restored (.ok n)) nothing
  · intro client
    show ((w.gate.bans.merge w.gate.now _).2.standing client).activeBan w.gate.now = _
    rw [Registry.standing_merge, calm.rows]
    exact Standing.takes_known _ _

theorem Undisturbed.started (calm : Undisturbed m w) {fresh : World ν} (bans : fresh.gate.bans = .empty)
    (now : fresh.gate.now = w.gate.now) (pending : fresh.pending = []) (backend : fresh.backend = w.backend) :
    (Session.ofWorld fresh).start.gate.bannedClients = w.gate.bannedClients := by
  have answered := calm.answered
  rw [← backend, ← now] at answered
  obtain ⟨trail, started⟩ := Session.start_resting (Session.Resting.ofWorld pending) (backend ▸ calm.healthy) answered
  rw [started]
  show (fresh.gate.bans.merge fresh.gate.now _).2.list fresh.gate.now = w.gate.bans.list w.gate.now
  rw [bans, now]
  refine Registry.list_congr (Registry.addressed_empty.merge _ _) calm.agreement.addressed fun client => ?_
  rw [Registry.activeBan_standing, Registry.standing_merge, calm.rows]
  exact Standing.takes_new (w.gate.bans.standing client) w.gate.now

-- As long as nothing fails, gate and store agree on who is banned: a reload changes nothing, and a gate that is
-- built and started over the store knows the same bans.
theorem bans_agree {b : Blueprint} {start : Nat} {sink : Sink} (built : World.build b start .memory sink = .ok w)
    (moves : List Move) (applied : ∀ v ∈ w.visits moves, v.Applied) (reached : w.run moves = u)
    (healthy : u.backend.Healthy) (drained : u.pending = []) :
    ∃ rows : List Ban, u.backend.store.answer (.active u.gate.now) = (.ok rows, u.backend.store) ∧
      u.gate.bannedClients.Perm rows ∧
      (∀ meanwhile, (u.step (.command .restore meanwhile)).1 = .restored (.ok 0) ∧
        ∀ client, (u.step (.command .restore meanwhile)).2.gate.activeBan client = u.gate.activeBan client) ∧
      ∀ blueprint sink' (fresh : World ν), World.build blueprint u.gate.now u.backend sink' = .ok fresh →
        (Session.ofWorld fresh).start.gate.bannedClients = u.gate.bannedClients := by
  subst reached
  have first := World.built built
  obtain ⟨m, agreement⟩ := agreement_run first.bans first.pending (by rw [first.backend]; rfl) moves applied
  have calm : Undisturbed m (w.run moves) := ⟨agreement, healthy, by rw [drained]; exact nofun⟩
  refine ⟨_, calm.answered, calm.perm, calm.reload drained, ?_⟩
  intro blueprint sink' fresh made
  have next := World.built made
  exact calm.started next.bans next.now next.pending next.backend

-- The ban of one client is extended, that of another is released, and maintenance ends that of a third.
def manyBans : List Move :=
  [.command (.ban "a" "manual" (.ofSecs 100) 0 "admin") [], .flush, .command (.ban "b" "manual" (.ofSecs 100) 0 "admin") [],
    .flush, .command (.ban "c" "manual" (.ofSecs 1) 0 "admin") [], .flush, .command (.clock 1000) [],
    .command (.ban "a" "abuse" (.ofSecs 300) 2 "admin") [], .flush, .command (.unban "b" "admin" none) [], .flush,
    .command (.maintain true) [], .command .restore []]

theorem restart_keeps_bans : ∃ again : World Rat,
    World.build ⟨.standard, some .strict, none⟩ 1000 (strict.run manyBans).backend (.ofMedium .log) = .ok again ∧
      (Session.ofWorld again).start.gate.bannedClients = [⟨"a", 0, 301000, "abuse", 2, "admin", none, none, false⟩] := by
  have now : (strict.run manyBans).gate.now = 1000 := by decide +kernel
  have made := build_fresh (ν := Rat) (b := ⟨.standard, some .strict, none⟩)
    ⟨by decide +kernel, by decide +kernel⟩ rfl 1000 (strict.run manyBans).backend (.ofMedium .log)
  obtain ⟨rows, _, _, _, restarted⟩ := bans_agree build_strict manyBans (by decide +kernel) rfl (by decide +kernel)
    (by decide +kernel)
  have listed : (strict.run manyBans).gate.bannedClients = [⟨"a", 0, 301000, "abuse", 2, "admin", none, none, false⟩] := by
    decide +kernel
  rw [now] at restarted
  exact ⟨_, made, (restarted _ _ _ made).trans listed⟩

end World

end Turnstile
